import Mathlib.Data.List.Basic
import SchemaProjection.Text.Segment

/-!
# Pieces of texts

The pieces of a text that goes on behind a separator are those before it and those behind it, and
pieces are divided nowhere else. A text without separators is its only piece, and so is every
text with one piece.
-/
namespace SchemaProjection.Text

/-- A separator stands between the pieces before it and those behind it. -/
theorem pieces_append {separates : Char → Bool} {c : Char} (separator : separates c = true)
    (front back : List Char) :
    pieces separates (front ++ c :: back) = pieces separates front ++ pieces separates back := by
  induction front with
  | nil => simp [pieces, separator]
  | cons first rest ih =>
    rw [List.cons_append, pieces, pieces, ih]
    split
    · rfl
    · obtain ⟨piece, further, same⟩ := List.exists_cons_of_ne_nil (pieces_ne_nil separates rest)
      rw [same]
      rfl

/-- Where pieces are divided a separator stands in the text. -/
theorem exists_of_pieces_eq_append {separates : Char → Bool} {text : List Char}
    {left right : List (List Char)} (divided : pieces separates text = left ++ right)
    (before : left ≠ []) (behind : right ≠ []) :
    ∃ front c back, text = front ++ c :: back ∧ separates c = true ∧
      pieces separates front = left ∧ pieces separates back = right := by
  induction text generalizing left with
  | nil =>
    obtain ⟨first, left, rfl⟩ := List.exists_cons_of_ne_nil before
    obtain ⟨second, right, rfl⟩ := List.exists_cons_of_ne_nil behind
    simp [pieces] at divided
  | cons c rest ih =>
    obtain ⟨first, left, rfl⟩ := List.exists_cons_of_ne_nil before
    rw [pieces] at divided
    by_cases separator : separates c = true
    · rw [if_pos separator, List.cons_append] at divided
      obtain ⟨rfl, later⟩ := List.cons.inj divided
      cases left with
      | nil => exact ⟨[], c, rest, rfl, separator, rfl, later⟩
      | cons second left =>
        obtain ⟨front, other, back, rfl, stands, begins, ends⟩ := ih later (List.cons_ne_nil _ _)
        exact ⟨c :: front, other, back, rfl, stands, by rw [pieces, if_pos separator, begins],
          ends⟩
    · obtain ⟨piece, further, same⟩ := List.exists_cons_of_ne_nil (pieces_ne_nil separates rest)
      rw [if_neg separator, same, List.cons_append] at divided
      obtain ⟨rfl, rfl⟩ := List.cons.inj divided
      have later : pieces separates rest = (piece :: left) ++ right := same
      obtain ⟨front, other, back, rfl, stands, begins, ends⟩ := ih later (List.cons_ne_nil _ _)
      exact ⟨c :: front, other, back, rfl, stands, by rw [pieces, if_neg separator, begins], ends⟩

/-- A path has at least one segment. -/
theorem segments_ne_nil (path : String) : segments path ≠ [] := by
  rw [segments, ne_eq, List.map_eq_nil_iff]
  exact pieces_ne_nil _ _

/-- The segments of a path that goes on behind another one. -/
theorem segments_append (front back : String) :
    segments (front ++ "." ++ back) = segments front ++ segments back := by
  have text : (front ++ "." ++ back).toList = front.toList ++ '.' :: back.toList := by
    simp
  rw [segments, text, pieces_append (by decide), List.map_append]
  rfl

/-- Where segments are divided a path goes on behind another one. -/
theorem exists_of_segments_eq_append {path : String} {left right : List String}
    (divided : segments path = left ++ right) (before : left ≠ []) (behind : right ≠ []) :
    ∃ front back, path = front ++ "." ++ back ∧ segments front = left ∧
      segments back = right := by
  obtain ⟨leftPieces, rightPieces, pieces, rfl, rfl⟩ := List.map_eq_append_iff.mp divided
  obtain ⟨front, c, back, text, separator, left, right⟩ := exists_of_pieces_eq_append pieces
    (by simpa using before) (by simpa using behind)
  obtain rfl : c = '.' := by simpa [pathSeparator] using separator
  refine ⟨String.ofList front, String.ofList back, ?_, ?_, ?_⟩
  · apply String.toList_injective
    simp [text]
  · rw [segments, String.toList_ofList, left]
  · rw [segments, String.toList_ofList, right]

/-- A text without separators is one piece. -/
theorem pieces_of_unseparated {separates : Char → Bool} {text : List Char}
    (unseparated : ∀ c ∈ text, separates c = false) : pieces separates text = [text] := by
  induction text with
  | nil => rfl
  | cons c rest ih =>
    rw [pieces, unseparated c List.mem_cons_self,
      ih fun other held => unseparated other (List.mem_cons_of_mem c held)]
    rfl

/-- A text without separators is the first piece of one that goes on behind a separator. -/
theorem pieces_append_of_unseparated {separates : Char → Bool} {c : Char} {front : List Char}
    (unseparated : ∀ d ∈ front, separates d = false) (separator : separates c = true)
    (back : List Char) :
    pieces separates (front ++ c :: back) = front :: pieces separates back := by
  rw [pieces_append separator, pieces_of_unseparated unseparated, List.singleton_append]

/-- Texts without separators are the pieces of what they are with a separator between them. -/
theorem pieces_intercalate {separates : Char → Bool} {c : Char} {texts : List (List Char)}
    (separator : separates c = true) (nonempty : texts ≠ [])
    (unseparated : ∀ text ∈ texts, ∀ d ∈ text, separates d = false) :
    pieces separates ([c].intercalate texts) = texts := by
  induction texts with
  | nil => exact absurd rfl nonempty
  | cons first further ih =>
    have alone := unseparated first List.mem_cons_self
    cases further with
    | nil => rw [List.intercalate_singleton, pieces_of_unseparated alone]
    | cons second further =>
      have later := ih (List.cons_ne_nil _ _) fun text listed =>
        unseparated text (List.mem_cons_of_mem first listed)
      rw [List.intercalate_cons_cons, List.append_assoc, List.singleton_append,
        pieces_append_of_unseparated alone separator, later]

/-- The pieces of a text with a character between them are the text with this character for what
separates them. -/
theorem intercalate_pieces (separates : Char → Bool) (between : Char) (text : List Char) :
    [between].intercalate (pieces separates text) =
      text.map fun c => if separates c then between else c := by
  induction text with
  | nil => rfl
  | cons c rest ih =>
    obtain ⟨piece, further, split⟩ := List.exists_cons_of_ne_nil (pieces_ne_nil separates rest)
    rw [split] at ih
    rw [pieces, split, List.map_cons]
    by_cases separator : separates c = true
    · rw [if_pos separator, if_pos separator, List.intercalate_cons_cons, ih]
      rfl
    · rw [if_neg separator, if_neg separator]
      cases further with
      | nil =>
        rw [List.intercalate_singleton] at ih ⊢
        rw [ih]
      | cons second further =>
        rw [List.intercalate_cons_cons] at ih ⊢
        exact congrArg (c :: ·) ih

/-- What holds of a separator and of the characters of texts holds of all characters of what the
texts are with the separator between them. -/
theorem forall_mem_intercalate {holds : Char → Prop} {c : Char} {texts : List (List Char)}
    (separator : holds c) (each : ∀ text ∈ texts, ∀ d ∈ text, holds d) :
    ∀ d ∈ [c].intercalate texts, holds d := by
  induction texts with
  | nil => exact nofun
  | cons first further ih =>
    have alone := each first List.mem_cons_self
    have later := ih fun text listed => each text (List.mem_cons_of_mem first listed)
    cases further with
    | nil => rwa [List.intercalate_singleton]
    | cons second further =>
      rw [List.intercalate_cons_cons]
      simp only [List.forall_mem_append, List.forall_mem_singleton]
      exact ⟨⟨alone, separator⟩, later⟩

/-- A name without a dot is one segment. -/
theorem segments_of_undotted {name : String} (undotted : pathSeparator ∉ name.toList) :
    segments name = [name] := by
  have unseparated : ∀ c ∈ name.toList, (c == pathSeparator) = false := fun c held =>
    beq_false_of_ne fun same => undotted (same ▸ held)
  rw [segments, pieces_of_unseparated unseparated, List.map_singleton, String.ofList_toList]

/-- What a piece holds stands in the text and separates nothing. -/
theorem mem_of_mem_pieces {separates : Char → Bool} {text piece : List Char}
    (divided : piece ∈ pieces separates text) : ∀ c ∈ piece, c ∈ text ∧ separates c = false := by
  induction text generalizing piece with
  | nil =>
    obtain rfl : piece = [] := by simpa [pieces] using divided
    exact List.forall_mem_nil _
  | cons c rest ih =>
    have behind {later : List Char} (held : later ∈ pieces separates rest) (d : Char)
        (member : d ∈ later) : d ∈ c :: rest ∧ separates d = false :=
      ⟨List.mem_cons_of_mem c (ih held d member).1, (ih held d member).2⟩
    obtain ⟨first, further, same⟩ := List.exists_cons_of_ne_nil (pieces_ne_nil separates rest)
    rw [pieces, same] at divided
    rw [same] at behind
    split at divided
    next =>
      rcases List.mem_cons.mp divided with rfl | later
      · exact List.forall_mem_nil _
      · exact behind later
    next joins =>
      rcases List.mem_cons.mp divided with rfl | later
      · intro d member
        rcases List.mem_cons.mp member with rfl | inner
        · exact ⟨List.mem_cons_self, by simpa using joins⟩
        · exact behind List.mem_cons_self d inner
      · exact behind (List.mem_cons_of_mem first later)

/-- The characters of the segments of a path are its pieces. -/
theorem map_toList_segments (path : String) :
    (segments path).map String.toList = pieces (· == pathSeparator) path.toList := by
  rw [segments, List.map_map]
  conv_rhs => rw [← List.map_id (pieces _ _)]
  exact List.map_congr_left fun piece _ => String.toList_ofList

/-- Segments hold no dots. -/
theorem undotted_of_mem_segments {path segment : String} (listed : segment ∈ segments path) :
    pathSeparator ∉ segment.toList := by
  obtain ⟨piece, divided, rfl⟩ := List.mem_map.mp listed
  rw [String.toList_ofList]
  intro dot
  simpa using (mem_of_mem_pieces divided _ dot).2

/-- A path is its segments with dots between them. -/
theorem joined_segments (path : String) : joined "." (segments path) = path := by
  have same : (fun c => if c == pathSeparator then '.' else c) = id := by
    funext c
    split
    next separator => exact (beq_iff_eq.mp separator).symm
    next => rfl
  apply String.toList_injective
  rw [joined, String.toList_intercalate, map_toList_segments]
  exact (intercalate_pieces _ '.' _).trans (by rw [same, List.map_id])

/-- Texts without dots are the segments of the path that they are with dots between them. -/
theorem segments_joined {texts : List String} (nonempty : texts ≠ [])
    (undotted : ∀ text ∈ texts, pathSeparator ∉ text.toList) :
    segments (joined "." texts) = texts := by
  have divided : pieces (· == pathSeparator) (['.'].intercalate (texts.map String.toList)) =
      texts.map String.toList := by
    refine pieces_intercalate (by decide) (by simpa using nonempty) ?_
    rintro _ listed c held
    obtain ⟨text, member, rfl⟩ := List.mem_map.mp listed
    exact beq_false_of_ne fun same => undotted text member (same ▸ held)
  refine List.map_injective_iff.mpr (fun _ _ => String.toList_injective) ?_
  rw [map_toList_segments, joined, String.toList_intercalate]
  exact divided

/-- The last segment of a path holds characters of the path, and no dot. -/
theorem mem_of_mem_lastSegment {path : String} {c : Char}
    (held : c ∈ (lastSegment path).toList) : c ∈ path.toList ∧ c ≠ pathSeparator := by
  rw [lastSegment, List.getLast?_eq_some_getLast (segments_ne_nil path), Option.getD_some] at held
  obtain ⟨piece, divided, same⟩ := List.mem_map.mp (List.getLast_mem (segments_ne_nil path))
  rw [← same, String.toList_ofList] at held
  exact ⟨(mem_of_mem_pieces divided c held).1, by simpa using (mem_of_mem_pieces divided c held).2⟩

/-- A text with one piece is that piece. -/
theorem eq_of_pieces_eq_singleton {separates : Char → Bool} {text piece : List Char}
    (single : pieces separates text = [piece]) : text = piece := by
  induction text generalizing piece with
  | nil => exact List.singleton_inj.mp single
  | cons c rest ih =>
    obtain ⟨first, further, same⟩ := List.exists_cons_of_ne_nil (pieces_ne_nil separates rest)
    rw [pieces, same] at single
    split at single
    · cases single
    · obtain ⟨rfl, rfl⟩ := List.cons.inj single
      rw [ih same]

/-- A path of one segment is that segment. -/
theorem eq_of_segments_eq_singleton {path segment : String} (single : segments path = [segment]) :
    path = segment := by
  obtain ⟨piece, same, rfl⟩ := List.map_eq_singleton_iff.mp single
  rw [← eq_of_pieces_eq_singleton same, String.ofList_toList]

end SchemaProjection.Text
