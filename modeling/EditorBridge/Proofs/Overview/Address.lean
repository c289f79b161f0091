import EditorBridge.Overview.Uri
import EditorBridge.Proofs.Text.Cutting

/-!
# Overview addresses as an encoding of paths

An address holds the text of its path unchanged between two fixed ends. Reading takes off one end at
each side and no more, so a path that looks like an address itself, or that closes with the extension,
comes back as it was. The one text of that form that is no address has nothing between its ends.

## Main statements

`OverviewUri.parse_eq_ok_iff`: which texts are addresses, and of which path.

`OverviewUri.parse_inverts_text`: reading and writing are inverse to each other, and a text that was
not written is refused by its name.
-/

namespace EditorBridge.OverviewUri

/-- The address as the format has it. -/
theorem text_eq (uri : OverviewUri) :
    uri.text = "docbridge-overview:" ++ uri.source.text ++ ".md" := by
  apply String.toList_inj.mp
  simp only [text, String.toList_ofList, String.toList_append]
  rfl

theorem ends_eq_some_iff (text source : List Char) :
    (Text.dropStart? opening text).bind (Text.dropEnding? ending) = some source ↔
      text = opening ++ (source ++ ending) := by
  simp only [Option.bind_eq_some_iff, Text.dropStart?_eq_some_iff, Text.dropEnding?_eq_some_iff]
  constructor
  · rintro ⟨rest, rfl, rfl⟩
    rfl
  · rintro rfl
    exact ⟨_, rfl, rfl⟩

/-- A text is an address exactly when it is the written address of a path that is not empty. -/
theorem parse_eq_ok_iff (text : String) (uri : OverviewUri) :
    parse text = .ok uri ↔ uri.source.text ≠ "" ∧ uri.text = text := by
  have written : uri.text = text ↔
      (Text.dropStart? opening text.toList).bind (Text.dropEnding? ending) =
        some uri.source.text.toList := by
    rw [ends_eq_some_iff, ← String.toList_inj, OverviewUri.text, String.toList_ofList,
      List.append_assoc, eq_comm]
  rw [written]
  unfold parse
  split
  next missing => simp [missing]
  next empty =>
    simp only [empty, reduceCtorEq, Option.some.injEq, false_iff, not_and]
    intro visible same
    exact visible (String.toList_eq_nil_iff.mp same.symm)
  next source visible found =>
    simp only [found, Except.ok.injEq, Option.some.injEq]
    constructor
    · rintro rfl
      simpa using visible
    · rintro ⟨-, rfl⟩
      simp

theorem eq_invalid_of_parse {text : String} {error : Error} (refused : parse text = .error error) :
    error = .invalidOverviewUri text := by
  unfold parse at refused
  split at refused <;> cases refused <;> rfl

/-- Between its two ends an address is the text of a path, whatever that text is. Reading an address
gives the path back, writing the path gives the address back, and every other text is refused by its
name. -/
theorem parse_inverts_text :
    (∀ (text : String) (source : Path), parse text = .ok ⟨source⟩ ↔
      source.text ≠ "" ∧ text = "docbridge-overview:" ++ source.text ++ ".md") ∧
    (∀ source : Path, source.text ≠ "" → parse (OverviewUri.text ⟨source⟩) = .ok ⟨source⟩) ∧
    (∀ (text : String) (uri : OverviewUri), parse text = .ok uri → uri.text = text) ∧
    (∀ first second : Path, OverviewUri.text ⟨first⟩ = OverviewUri.text ⟨second⟩ →
      first.text = second.text) ∧
    (∀ text : String,
      (∀ source, source ≠ "" → text ≠ "docbridge-overview:" ++ source ++ ".md") →
      parse text = .error (.invalidOverviewUri text)) := by
  refine ⟨fun text source => ?_, fun source visible => ?_, fun text uri read => ?_,
    fun first second same => ?_, fun text unwritten => ?_⟩
  · rw [parse_eq_ok_iff, text_eq, eq_comm (b := text)]
  · exact (parse_eq_ok_iff ..).mpr ⟨visible, rfl⟩
  · exact ((parse_eq_ok_iff ..).mp read).2
  · -- Equal addresses have equal ends, so they are equal between these.
    simpa [OverviewUri.text, String.toList_inj] using congrArg String.toList same
  · cases result : parse text with
    | error error => rw [eq_invalid_of_parse result]
    | ok uri =>
      obtain ⟨visible, written⟩ := (parse_eq_ok_iff ..).mp result
      exact absurd (written.symm.trans (text_eq uri)) (unwritten _ visible)

/-- The address of an address: reading takes off the outer ends only. -/
theorem parse_inverts_text_nested :
    let inner : OverviewUri := ⟨⟨"a:b.md"⟩⟩
    let outer : OverviewUri := ⟨⟨inner.text⟩⟩
    outer.text = "docbridge-overview:docbridge-overview:a:b.md.md.md" ∧
      parse outer.text = .ok outer ∧ parse inner.text = .ok inner ∧
      parse "docbridge-overview:.md" = .error (.invalidOverviewUri "docbridge-overview:.md") := by
  intro inner outer
  obtain ⟨reads, restores, -, -, refuses⟩ := parse_inverts_text
  refine ⟨by decide +kernel, restores outer.source (by decide +kernel),
    restores inner.source (by decide), refuses _ fun source visible same => ?_⟩
  -- Only the empty path has this address, and it is left out.
  have accepted := (reads "docbridge-overview:.md" ⟨source⟩).mpr ⟨visible, same⟩
  have refused : parse "docbridge-overview:.md" =
      .error (.invalidOverviewUri "docbridge-overview:.md") := by decide +kernel
  rw [refused] at accepted
  cases accepted

end EditorBridge.OverviewUri
