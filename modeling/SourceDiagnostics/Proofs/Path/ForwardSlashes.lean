import SourceDiagnostics.Path
import SourceDiagnostics.Proofs.Text.Ascii

/-!
Paths shown with forward slashes. Whatever bytes a path has, it is then a text without backslashes,
and the pieces between its separators are shown one by one (`bytes_forwardSlashes_append`): bytes
that form no character neither take a separator with them nor make up for one
(`count_slash_forwardSlashes`).
-/

namespace SourceDiagnostics.Path

open Text

def backslash : UInt8 := 0x5C

def IsText (path : Path) : Prop :=
  ∃ text, Utf8.encode text = path.bytes

theorem isText_iff (path : Path) : path.IsText ↔ ∃ text, path.toString? = some text :=
  exists_congr fun text => eq_comm.trans (Utf8.decode?_eq_some_iff path.bytes text).symm

theorem not_isText_iff (path : Path) : ¬ path.IsText ↔ path.toString? = none := by
  rw [isText_iff, ← Option.isSome_iff_exists, Option.not_isSome_iff_eq_none]

/-! Character by character. -/

def shown (character : Char) : Char :=
  if character = '\\' then '/' else character

theorem shown_ne_backslash (character : Char) : shown character ≠ '\\' := by
  rw [shown]
  split
  · decide
  · next other => exact other

theorem shown_of_ne {character : Char} (other : character ≠ '\\') : shown character = character :=
  if_neg other

theorem shown_eq_slash_iff (character : Char) :
    shown character = '/' ↔ character = '/' ∨ character = '\\' := by
  rw [shown]
  split
  · next same => exact iff_of_true rfl (.inr same)
  · next other => exact (or_iff_left other).symm

def shownItem (item : Utf8.Item) : Char :=
  shown (item.getD '\uFFFD')

theorem shownItem_eq_slash_iff (item : Utf8.Item) :
    shownItem item = '/' ↔ item = some '/' ∨ item = some '\\' := by
  cases item with
  | none => decide
  | some character => simp only [shownItem, Option.getD_some, shown_eq_slash_iff, Option.some.injEq]

theorem count_map_shownItem (items : List Utf8.Item) :
    (items.map shownItem).count '/' = items.count (some '/') + items.count (some '\\') := by
  induction items with
  | nil => rfl
  | cons item items induction =>
      rw [List.map_cons, List.count_cons, List.count_cons, List.count_cons, induction]
      simp only [beq_iff_eq, shownItem_eq_slash_iff]
      by_cases slashed : item = some '/'
      · have other : item ≠ some '\\' := slashed ▸ by decide
        rw [if_pos (.inl slashed), if_pos slashed, if_neg other]
        omega
      · simp only [slashed, false_or, if_false]
        omega

theorem bytes_forwardSlashes (path : Path) :
    path.forwardSlashes.bytes = Utf8.encodeChars ((Utf8.items path.bytes).map shownItem) := by
  rw [forwardSlashes, ofString, Utf8.encode, display, Utf8.lossy, String.toList_map,
    String.toList_ofList, List.map_map]
  rfl

theorem forwardSlashes_encodeChars (characters : List Char) :
    forwardSlashes ⟨Utf8.encodeChars characters⟩ = ⟨Utf8.encodeChars (characters.map shown)⟩ := by
  rw [Path.mk.injEq, bytes_forwardSlashes, Utf8.items, Utf8.scan_encodeChars, List.map_map]
  rfl

/-! Whole paths. -/

theorem isText_forwardSlashes (path : Path) : path.forwardSlashes.IsText := by
  refine ⟨String.ofList ((Utf8.items path.bytes).map shownItem), ?_⟩
  rw [bytes_forwardSlashes, Utf8.encode, String.toList_ofList]

theorem backslash_not_mem_forwardSlashes (path : Path) :
    backslash ∉ path.forwardSlashes.bytes := by
  rw [bytes_forwardSlashes, ← List.count_eq_zero, Utf8.count_encodeChars (by decide),
    List.count_eq_zero, List.mem_map]
  rintro ⟨item, -, same⟩
  exact shown_ne_backslash _ same

theorem forwardSlashes_of_isText {path : Path} (text : path.IsText)
    (slashes : backslash ∉ path.bytes) : path.forwardSlashes = path := by
  rcases path with ⟨bytes⟩
  rcases text with ⟨text, rfl⟩
  have absent : '\\' ∉ text.toList := by
    rw [← List.count_eq_zero] at slashes ⊢
    exact (Utf8.count_encodeChars (by decide) text.toList).symm.trans slashes
  have unchanged : text.toList.map shown = text.toList :=
    (List.map_congr_left fun character member =>
      shown_of_ne (ne_of_mem_of_not_mem member absent)).trans (List.map_id _)
  rw [Utf8.encode, forwardSlashes_encodeChars, unchanged]

theorem forwardSlashes_idem (path : Path) :
    path.forwardSlashes.forwardSlashes = path.forwardSlashes :=
  forwardSlashes_of_isText (isText_forwardSlashes path) (backslash_not_mem_forwardSlashes path)

theorem bytes_forwardSlashes_append (front back : Bytes) {separator : UInt8}
    (separates : separator = slash ∨ separator = backslash) :
    (forwardSlashes ⟨front ++ separator :: back⟩).bytes =
      (forwardSlashes ⟨front⟩).bytes ++ slash :: (forwardSlashes ⟨back⟩).bytes := by
  have ascii : separator < 0x80 := by
    rcases separates with rfl | rfl <;> decide
  have slashed : shownItem (some (Char.ofNat separator.toNat)) = '/' := by
    rcases separates with rfl | rfl <;> decide
  rw [bytes_forwardSlashes, bytes_forwardSlashes, bytes_forwardSlashes,
    Utf8.items_append_ascii front back ascii, List.map_append, List.map_cons, slashed,
    Utf8.encodeChars, List.flatMap_append, List.flatMap_cons]
  rfl

theorem count_slash_forwardSlashes (path : Path) :
    path.forwardSlashes.bytes.count slash =
      path.bytes.count slash + path.bytes.count backslash := by
  rw [bytes_forwardSlashes, Utf8.count_encodeChars (by decide),
    ← Utf8.count_items (by decide) path.bytes, ← Utf8.count_items (by decide) path.bytes]
  exact count_map_shownItem _

/-- A way to show paths: as texts without backslashes, left alone if they are that already, and
piece by piece, with a slash for each separator and no others. -/
structure ShowsForwardSlashes (shows : Path → Path) : Prop where
  isText : ∀ path, (shows path).IsText
  no_backslash : ∀ path, backslash ∉ (shows path).bytes
  idem : ∀ path, shows (shows path) = shows path
  unchanged : ∀ path, path.IsText → backslash ∉ path.bytes → shows path = path
  separated : ∀ front back separator, separator = slash ∨ separator = backslash →
    (shows ⟨front ++ separator :: back⟩).bytes = (shows ⟨front⟩).bytes ++ slash :: (shows ⟨back⟩).bytes
  counted : ∀ path,
    (shows path).bytes.count slash = path.bytes.count slash + path.bytes.count backslash

theorem showsForwardSlashes : ShowsForwardSlashes forwardSlashes where
  isText := isText_forwardSlashes
  no_backslash := backslash_not_mem_forwardSlashes
  idem := forwardSlashes_idem
  unchanged _ := forwardSlashes_of_isText
  separated front back _ := bytes_forwardSlashes_append front back
  counted := count_slash_forwardSlashes

end SourceDiagnostics.Path
