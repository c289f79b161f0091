import EditorBridge.Session.Basic
import Mathlib.Data.List.Nodup
import Mathlib.Data.List.Perm.Basic

/-!
# Documents under replacements

Where the paths of the documents are distinct, a replacement names one document and changes its text
and nothing else, and replacements of different documents can be made in any order.

## Main statements

`documentsAfter_append`: the documents follow a history of events from its front.

`mem_documentsAfter_of_unnamed`: a document that no replacement names stays as it is.

`applyAll_perm`: replacements of different documents lead to the same documents in any order.
-/

namespace EditorBridge

namespace Session

/-! ### One replacement -/

variable {path : Option Path} {content : String} {documents : List Document} {document : Document}

theorem paths_setText (path : Option Path) (content : String) (documents : List Document) :
    (setText path content documents).map Document.path = documents.map Document.path := by
  induction documents with
  | nil => rfl
  | cons first rest ih =>
    rw [setText]
    split
    · rfl
    · rw [List.map_cons, List.map_cons, ih]

/-- After a replacement every document is as before, or the one named with the content for a
text. -/
theorem mem_setText (member : document ∈ setText path content documents) :
    document ∈ documents ∨
      ∃ before ∈ documents, before.path = path ∧ document = { before with text := content } := by
  induction documents with
  | nil => cases member
  | cons first rest ih =>
    rw [setText] at member
    split at member
    next named =>
      rcases List.mem_cons.mp member with rfl | member
      · exact .inr ⟨first, List.mem_cons_self, named, rfl⟩
      · exact .inl (List.mem_cons_of_mem first member)
    next other =>
      rcases List.mem_cons.mp member with rfl | member
      · exact .inl List.mem_cons_self
      · exact (ih member).imp (List.mem_cons_of_mem first) fun ⟨before, present, named⟩ =>
          ⟨before, List.mem_cons_of_mem first present, named⟩

theorem mem_setText_of_ne (member : document ∈ documents) (other : document.path ≠ path) :
    document ∈ setText path content documents := by
  induction documents with
  | nil => cases member
  | cons first rest ih =>
    rw [setText]
    split
    next named =>
      rcases List.mem_cons.mp member with rfl | member
      · exact absurd named other
      · exact List.mem_cons_of_mem _ member
    next =>
      rcases List.mem_cons.mp member with rfl | member
      · exact List.mem_cons_self
      · exact List.mem_cons_of_mem first (ih member)

/-- Replacements of different documents do not meet. -/
theorem setText_comm {first second : Option Path} (differ : first ≠ second)
    (content other : String) (documents : List Document) :
    setText second other (setText first content documents) =
      setText first content (setText second other documents) := by
  induction documents with
  | nil => rfl
  | cons document rest ih =>
    by_cases one : document.path = first
    · have notTwo : document.path ≠ second := fun two => differ (one.symm.trans two)
      simp [setText, one, differ]
    · by_cases two : document.path = second
      · simp [setText, two, differ.symm]
      · simp [setText, one, two, ih]

/-! ### Many replacements -/

variable {replacements : List Replacement}

theorem paths_applyAll (replacements : List Replacement) (documents : List Document) :
    (applyAll replacements documents).map Document.path = documents.map Document.path := by
  induction replacements generalizing documents with
  | nil => rfl
  | cons replacement rest ih => exact (ih _).trans (paths_setText ..)

theorem mem_applyAll_of_unnamed (member : document ∈ documents)
    (unnamed : ∀ replacement ∈ replacements, replacement.path ≠ document.path) :
    document ∈ applyAll replacements documents := by
  induction replacements generalizing documents with
  | nil => exact member
  | cons replacement rest ih =>
    have other := (unnamed replacement List.mem_cons_self).symm
    exact ih (mem_setText_of_ne member other) fun later present =>
      unnamed later (List.mem_cons_of_mem replacement present)

/-- Replacements of different documents lead to the same documents in any order. -/
theorem applyAll_perm {sorted : List Replacement} (same : sorted.Perm replacements)
    (distinct : (replacements.map Replacement.path).Nodup) (documents : List Document) :
    applyAll sorted documents = applyAll replacements documents := by
  refine same.foldl_eq' (fun first present second inside documents => ?_) documents
  by_cases equal : first = second
  · rw [equal]
  · refine setText_comm (fun path => equal ?_) ..
    exact List.inj_on_of_nodup_map distinct (same.mem_iff.mp present) (same.mem_iff.mp inside) path

end Session

/-! ### Histories of events -/

/-- The documents once the replacements among the events have taken effect. -/
def documentsAfter (documents : List Document) (events : List Event) : List Document :=
  Session.applyAll (events.filterMap Event.replacement?) documents

variable {documents : List Document} {document : Document} {events front back : List Event}

theorem documentsAfter_append (documents : List Document) (front back : List Event) :
    documentsAfter documents (front ++ back) =
      documentsAfter (documentsAfter documents front) back := by
  simp only [documentsAfter, Session.applyAll, List.filterMap_append, List.foldl_append]

theorem documentsAfter_concat (documents : List Document) (events : List Event) (event : Event) :
    documentsAfter documents (events ++ [event]) =
      match event.replacement? with
      | some replacement =>
        Session.setText replacement.path replacement.content (documentsAfter documents events)
      | none => documentsAfter documents events := by
  rw [documentsAfter_append]
  cases replaced : event.replacement? <;> simp [documentsAfter, Session.applyAll, replaced]

theorem paths_documentsAfter (documents : List Document) (events : List Event) :
    (documentsAfter documents events).map Document.path = documents.map Document.path :=
  Session.paths_applyAll ..

theorem mem_documentsAfter_of_unnamed (member : document ∈ documents)
    (unnamed : ∀ replacement ∈ events.filterMap Event.replacement?,
      replacement.path ≠ document.path) :
    document ∈ documentsAfter documents events :=
  Session.mem_applyAll_of_unnamed member unnamed

end EditorBridge
