import EditorBridge.Document
import EditorBridge.Proofs.Path.Directory

/-!
# The name and the directory of a document

The name of a document is cut off the text of its path, behind the last slash or backslash. The directory
is where the last step of the path begins, whatever the text looks like. Both look at the same segment when
the text ends in a segment that is a step, and then the directory and the name lead to the document again.

## Main statements

`Path.not_mem_baseName`, `Path.baseName_suffix`: what every name is like.

`Path.components_entry`: entering a directory by a name is one component more.

`Document.name_and_directory`: what the name and the directory of a document have to do with its path.
-/

namespace EditorBridge

namespace Path

/-- Where a path leads from a directory. An absolute path leads to the same place from everywhere. -/
def join (directory other : Path) : Path :=
  if other.isAbsolute then other else directory.entry other.text

/-- The name is what stands behind the last slash of the text. -/
def EndsIn (path : Path) (name : String) : Prop :=
  (∃ front, path.text = front ++ "/" ++ name) ∧ '/' ∉ name.toList

/-! ### Names -/

theorem toList_baseName (path : Path) :
    path.baseName.toList = path.text.toList.rtakeWhile fun c => c != '/' && c != '\\' :=
  String.toList_ofList

theorem not_mem_baseName (path : Path) :
    '/' ∉ path.baseName.toList ∧ '\\' ∉ path.baseName.toList := by
  rw [toList_baseName]
  constructor <;> (intro member; simpa using List.mem_rtakeWhile_imp member)

theorem baseName_suffix (path : Path) : path.baseName.toList <:+ path.text.toList := by
  rw [toList_baseName]
  exact List.rtakeWhile_suffix _ _

theorem EndsIn.exists_toList {path : Path} {name : String} (ends : path.EndsIn name) :
    ∃ front, path.text.toList = front ++ '/' :: name.toList := by
  obtain ⟨⟨front, text⟩, -⟩ := ends
  exact ⟨front.toList, by simp [text]⟩

/-- The last segment is the name unless a backslash cuts it once more. -/
theorem EndsIn.baseName_eq {path : Path} {name : String} (ends : path.EndsIn name)
    (plain : '\\' ∉ name.toList) : path.baseName = name := by
  obtain ⟨front, text⟩ := ends.exists_toList
  rw [← String.toList_inj, toList_baseName, text]
  have kept : ∀ c ∈ name.toList.reverse, (c != '/' && c != '\\') = true := by
    intro c member
    rw [List.mem_reverse] at member
    have noSlash : c ≠ '/' := fun same => ends.2 (same ▸ member)
    have noBackslash : c ≠ '\\' := fun same => plain (same ▸ member)
    simp [noSlash, noBackslash]
  -- Read backwards, the name is kept to its end and the slash in front of it is not.
  rw [List.rtakeWhile, List.reverse_append, List.reverse_cons, List.append_assoc,
    List.takeWhile_append_of_pos kept, List.singleton_append, List.takeWhile_cons_of_neg (by simp),
    List.append_nil, List.reverse_reverse]

/-! ### Entering a directory -/

/-- The components of an absolute path whose text is cut at one of its slashes. -/
theorem components_of_append {path : Path} (absolute : path.isAbsolute = true)
    {front name : List Char} (text : path.text.toList = front ++ '/' :: name) (whole : '/' ∉ name) :
    path.components =
      .root :: ((Text.splitAt (· == '/') front).drop 1).filterMap Component.ofSegment? ++
        (Component.ofSegment? name).toList := by
  have visible : ∀ c ∈ name, (c == '/') = false := by
    intro c member
    exact beq_eq_false_iff_ne.mpr fun same => whole (same ▸ member)
  have some := List.length_pos_iff.mpr (Text.splitAt_ne_nil (· == '/') front)
  rw [components_of_absolute absolute, segments, text,
    Text.splitAt_append_separator (· == '/') (beq_self_eq_true '/'),
    Text.splitAt_of_forall (· == '/') visible, List.drop_append_of_le_length some,
    List.filterMap_append]
  cases said : Component.ofSegment? name <;> simp [said]

/-- A name is one component more, or none when it says nothing. -/
theorem components_entry {directory : Path} (absolute : directory.isAbsolute = true)
    {name : String} (whole : '/' ∉ name.toList) :
    (directory.entry name).components =
      directory.components ++ (Component.ofSegment? name.toList).toList := by
  obtain ⟨rest, starts⟩ := (isAbsolute_iff directory).mp absolute
  unfold entry
  by_cases closed : directory.text.toList.getLast? = some '/'
  · -- The slash at the end of the directory is the one in front of the name.
    obtain ⟨front, text⟩ := List.getLast?_eq_some_iff.mp closed
    have named : (⟨directory.text ++ name⟩ : Path).text.toList = front ++ '/' :: name.toList := by
      simp [text]
    have absoluteToo : (⟨directory.text ++ name⟩ : Path).isAbsolute = true :=
      (isAbsolute_iff _).mpr ⟨rest ++ name.toList, by simp [starts]⟩
    have idle : Component.ofSegment? [] = none := rfl
    simp only [closed, beq_self_eq_true, Bool.or_true, if_true]
    rw [components_of_append absoluteToo named whole,
      components_of_append absolute text List.not_mem_nil, idle, Option.toList_none, List.append_nil]
  · have named : (⟨directory.text ++ "/" ++ name⟩ : Path).text.toList =
        directory.text.toList ++ '/' :: name.toList := by simp
    have absoluteToo : (⟨directory.text ++ "/" ++ name⟩ : Path).isAbsolute = true :=
      (isAbsolute_iff _).mpr ⟨rest ++ '/' :: name.toList, by simp [starts]⟩
    have apart : (directory.text.toList.isEmpty || directory.text.toList.getLast? == some '/') =
        false := by
      rw [beq_eq_false_iff_ne.mpr closed, starts]
      rfl
    rw [if_neg (by simp [apart]), components_of_append absoluteToo named whole,
      components_of_absolute absolute]
    rfl

theorem join_name (directory : Path) {name : String} (whole : '/' ∉ name.toList) :
    directory.join ⟨name⟩ = directory.entry name := by
  refine if_neg fun absolute => ?_
  obtain ⟨rest, starts⟩ := (isAbsolute_iff _).mp absolute
  exact whole (starts ▸ List.mem_cons_self)

/-- The last segment of an absolute path, when it says something, is the last component. -/
theorem EndsIn.components_eq {path : Path} {name : String} (ends : path.EndsIn name)
    (absolute : path.isAbsolute = true) (some : name ≠ "") (busy : name ≠ ".") :
    ∃ front last, path.components = .root :: front ++ [last] ∧
      Component.ofSegment? name.toList = .some last := by
  obtain ⟨front, text⟩ := ends.exists_toList
  have step : ¬ isIdle name.toList = true := by
    rw [isIdle, Bool.or_eq_true, beq_iff_eq, beq_iff_eq, String.toList_eq_nil_iff]
    rintro (empty | dot)
    · exact some empty
    · exact busy (String.toList_inj.mp dot)
  obtain ⟨last, said⟩ := Option.ne_none_iff_exists'.mp (mt (ofSegment?_eq_none_iff _).mp step)
  exact ⟨_, last, by rw [components_of_append absolute text ends.2, said]; rfl, said⟩

end Path

namespace Document

/-- The directory and the name lead to the path. -/
structure LeadsTo (directory : Path) (name : String) (path : Path) : Prop where
  absolute : directory.isAbsolute = true
  oneFewer : directory.components.length + 1 = path.components.length
  same : (directory.join ⟨name⟩).same path = true

/-- What the name and the directory of a document have to do with its path. -/
structure Located (document : Document) (path : Path) : Prop where
  /-- A name has no separators and is the end of the path. -/
  name : '/' ∉ document.displayName.toList ∧ '\\' ∉ document.displayName.toList ∧
    document.displayName.toList <:+ path.text.toList
  /-- The tool runs nowhere in particular for a relative path. -/
  relative : path.isAbsolute = false → document.workingDirectory? = none
  absolute : path.isAbsolute = true → ∀ last, path.EndsIn last → last ≠ "" → last ≠ "." →
    '\\' ∉ last.toList →
    document.displayName = last ∧
      ∃ directory, document.workingDirectory? = some directory ∧
        LeadsTo directory document.displayName path

section

variable {document : Document} {path : Path} (filed : document.path = some path)

include filed

theorem displayName_of_path : document.displayName = path.baseName := by
  rw [displayName, filed]

theorem workingDirectory?_of_path : document.workingDirectory? = path.directory? := by
  rw [workingDirectory?, filed, Option.bind_some]

/-- Whatever the text of its path, a document has for a name the end of it that holds no separator, and no
directory when the path is relative. When the last segment of an absolute path is a step without a backslash,
that is the name, and from the directory it leads to the path again. -/
theorem name_and_directory : document.Located path := by
  have named := displayName_of_path filed
  have located := workingDirectory?_of_path filed
  refine ⟨?_, fun relative => ?_, fun absolute last ends some busy plain => ?_⟩
  · rw [named]
    exact ⟨path.not_mem_baseName.1, path.not_mem_baseName.2, path.baseName_suffix⟩
  · rw [located, Path.directory?_eq_none_iff]
    exact fun below => Bool.false_ne_true (relative.symm.trans below.1)
  · have same := named.trans (ends.baseName_eq plain)
    obtain ⟨front, component, components, said⟩ := ends.components_eq absolute some busy
    -- The last segment is a step, so the path lies below the root.
    have below : path.directory? ≠ none := by
      rw [ne_eq, Path.directory?_eq_none_iff, not_not]
      exact ⟨absolute, by simp [components]⟩
    obtain ⟨directory, found⟩ := Option.ne_none_iff_exists'.mp below
    obtain ⟨absoluteToo, parent⟩ := Path.components_of_directory? found
    rw [components, List.dropLast_concat] at parent
    have entered := Path.components_entry absoluteToo ends.2
    refine ⟨same, directory, located.trans found, absoluteToo, ?_, ?_⟩
    · rw [parent, components, List.length_append, List.length_singleton]
    · rw [same, Path.same, Path.join_name directory ends.2, entered, said, parent, components,
        Option.toList_some, beq_self_eq_true]

end

/-- A path with slashes, dots and double dots that say nothing or lead back. -/
theorem name_and_directory_dotted :
    let path : Path := ⟨"/w//a/./../b.py"⟩
    let document : Document := ⟨some path, "b = 2", "python", none⟩
    document.path = some path ∧ document.Located path ∧ path.isAbsolute = true ∧
      path.EndsIn "b.py" ∧ document.displayName = "b.py" ∧
      document.workingDirectory? = some ⟨"/w//a/./.."⟩ ∧ LeadsTo ⟨"/w//a/./.."⟩ "b.py" path := by
  intro path document
  have located : document.Located path := name_and_directory rfl
  have absolute : path.isAbsolute = true := by decide +kernel
  have ends : path.EndsIn "b.py" := ⟨⟨"/w//a/./..", rfl⟩, by decide⟩
  obtain ⟨named, directory, found, leads⟩ :=
    located.absolute absolute "b.py" ends (by decide) (by decide) (by decide)
  have working : document.workingDirectory? = some ⟨"/w//a/./.."⟩ := by decide +kernel
  obtain rfl := Option.some.inj (found.symm.trans working)
  exact ⟨rfl, located, absolute, ends, named, working, named ▸ leads⟩

end Document

end EditorBridge
