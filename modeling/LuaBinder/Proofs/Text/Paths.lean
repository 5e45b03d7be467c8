import Mathlib.Data.List.DropRight
import LuaBinder.Proofs.Text.Lines
import LuaBinder.Proofs.Text.Segments

/-!
Paths and their segments.

Cutting a path at its slashes and joining the segments by slashes undo each other, so a path can be
read either way: a part between two slashes is a run of segments. The same holds of every character
at which a text is cut.

* `parts`: a text cut at a character; `intercalate_parts`, `parts_intercalate`: cutting and joining.
* `intercalate_segments`, `segments_intercalate`: the same for slashes.
* `segments_append`: the segments of two paths with a slash between them.
* `length_segments`: there is one segment more than there are slashes.
* `EndsPath`: a path, or what stands behind one of its slashes; `endsPath_intercalate`: segments at
  the end of a path end it, joined again.
* `segments_lastSegments`: which segments a path has that is cut down to its last ones.
* `lastSegments_stable`: the cut keeps the end of the path, as many segments as it may, and cutting
  twice is cutting once.
-/

namespace LuaBinder.Text

/-! ### Cutting and joining -/

lemma pieces_eq_splitOnP {α : Type} (isSep : α → Bool) (cs : List α) :
    pieces isSep cs = cs.splitOnP isSep := by
  induction cs with
  | nil => rw [pieces, List.splitOnP_nil]
  | cons c cs ih =>
      rw [pieces, List.splitOnP_cons_eq_if_modifyHead, ← ih]
      split
      · rfl
      · cases hcut : pieces isSep cs with
        | nil => exact absurd hcut (pieces_ne_nil isSep cs)
        | cons piece more => rfl

/-- The parts of a text between the places of a character. -/
def parts (sep : Char) (text : String) : List String :=
  (pieces (· == sep) text.toList).map String.ofList

section Parts

variable {sep : Char} {part text : String}

lemma parts_ne_nil (sep : Char) (text : String) : parts sep text ≠ [] :=
  fun h => pieces_ne_nil _ _ (List.map_eq_nil_iff.mp h)

/-- The parts of two texts with the character between them. -/
lemma parts_append (sep : Char) (a b : String) :
    parts sep (a ++ String.singleton sep ++ b) = parts sep a ++ parts sep b := by
  have hchars : (a ++ String.singleton sep ++ b).toList = a.toList ++ sep :: b.toList := by simp
  rw [parts, hchars, pieces_append_cons (by simp), List.map_append, parts, parts]

/-- A text without the character is its only part. -/
lemma parts_of_not_mem (h : sep ∉ text.toList) : parts sep text = [text] := by
  rw [parts, pieces_of_not_mem h, List.map_singleton, String.ofList_toList]

lemma not_mem_of_mem_parts (h : part ∈ parts sep text) : sep ∉ part.toList := by
  obtain ⟨cs, hcs, rfl⟩ := List.mem_map.mp h
  rw [String.toList_ofList]
  exact fun hmem => absurd (forall_not_of_mem_pieces hcs _ hmem) (by simp)

/-- What a part is made of, the text is made of. -/
lemma subset_of_mem_parts (h : part ∈ parts sep text) : part.toList ⊆ text.toList := by
  obtain ⟨cs, hcs, rfl⟩ := List.mem_map.mp h
  rw [String.toList_ofList]
  exact fun c hc => subset_of_mem_pieces hcs hc

/-- Joining the parts of a text makes the text again. -/
lemma intercalate_parts (sep : Char) (text : String) :
    (String.singleton sep).intercalate (parts sep text) = text := by
  rw [← String.toList_inj, String.toList_intercalate, parts, map_toList_ofList,
    pieces_eq_splitOnP, String.toList_singleton]
  exact List.intercalate_splitOn sep

/-- The parts of a text joined from parts without the character are these parts. -/
lemma parts_intercalate {joined : List String} (hne : joined ≠ [])
    (h : ∀ part ∈ joined, sep ∉ part.toList) :
    parts sep ((String.singleton sep).intercalate joined) = joined := by
  induction joined with
  | nil => exact absurd rfl hne
  | cons part joined ih =>
      obtain ⟨hpart, hjoined⟩ := List.forall_mem_cons.mp h
      by_cases hnil : joined = []
      · rw [hnil, String.intercalate_singleton, parts_of_not_mem hpart]
      · rw [String.intercalate_cons_of_ne_nil hnil, parts_append, parts_of_not_mem hpart,
          ih hnil hjoined, List.singleton_append]

end Parts

/-! ### Segments -/

lemma segments_ne_nil (path : String) : segments path ≠ [] := parts_ne_nil '/' path

/-- The segments of two paths with a slash between them. -/
lemma segments_append (a b : String) : segments (a ++ "/" ++ b) = segments a ++ segments b :=
  parts_append '/' a b

lemma not_mem_of_mem_segments {path part : String} (h : part ∈ segments path) :
    '/' ∉ part.toList := not_mem_of_mem_parts h

/-- Joining the segments of a path makes the path again. -/
lemma intercalate_segments (path : String) : "/".intercalate (segments path) = path :=
  intercalate_parts '/' path

/-- The segments of a path joined from parts without slashes are these parts. -/
lemma segments_intercalate {parts : List String} (hne : parts ≠ [])
    (h : ∀ part ∈ parts, '/' ∉ part.toList) : segments ("/".intercalate parts) = parts :=
  parts_intercalate hne h

/-- There is one segment more than there are slashes. -/
lemma length_segments (path : String) :
    (segments path).length = path.toList.count '/' + 1 := by
  have hpieces : ∀ cs : List Char, (pieces (· == '/') cs).length = cs.count '/' + 1 := by
    intro cs
    induction cs with
    | nil => rfl
    | cons c cs ih =>
        obtain ⟨piece, more, hcut⟩ := List.exists_cons_of_ne_nil (pieces_ne_nil (· == '/') cs)
        rw [hcut] at ih
        rw [pieces, hcut, List.count_cons]
        split
        · next hc => rw [List.length_cons, ih]
        · next hc => exact ih
  rw [segments, List.length_map, hpieces]

/-! ### The end of a path -/

/-- The text is the whole path, or what stands behind one of its slashes. -/
def EndsPath (part path : String) : Prop := part = path ∨ ∃ front, path = front ++ "/" ++ part

lemma EndsPath.suffix {part path : String} (h : EndsPath part path) :
    part.toList <:+ path.toList := by
  rcases h with rfl | ⟨front, rfl⟩
  · exact List.suffix_rfl
  · rw [String.toList_append]
    exact List.suffix_append _ _

/-- Segments at the end of a path, joined again, end the path. -/
lemma endsPath_intercalate {path : String} {parts : List String} (h : parts <:+ segments path)
    (hparts : parts ≠ []) : EndsPath ("/".intercalate parts) path := by
  obtain ⟨front, hcut⟩ := h
  have hwhole : path = "/".intercalate (front ++ parts) := by rw [hcut, intercalate_segments]
  by_cases hfront : front = []
  · left
    rw [hwhole, hfront, List.nil_append]
  · right
    exact ⟨"/".intercalate front, by
      rw [hwhole, String.intercalate_append_of_ne_nil hfront hparts]⟩

/-- Joined segments are the end of the path even if there are none. -/
lemma intercalate_suffix {path : String} {parts : List String} (h : parts <:+ segments path) :
    ("/".intercalate parts).toList <:+ path.toList := by
  by_cases hparts : parts = []
  · rw [hparts, String.intercalate_nil]
    exact List.nil_suffix
  · exact (endsPath_intercalate h hparts).suffix

/-- A path cut down to its last segments is the end of the path. -/
lemma lastSegments_suffix (path : String) (count : Nat) :
    (lastSegments path count).toList <:+ path.toList :=
  intercalate_suffix (List.drop_suffix _ _)

lemma getLast?_segments (path : String) :
    (segments path).getLast? = some (lastSegments path 1) := by
  rw [lastSegments, List.drop_length_sub_one (segments_ne_nil path), String.intercalate_singleton,
    List.getLast?_eq_some_getLast]

/-! ### Paths cut down to their last segments -/

variable {count : Nat}

lemma lastSegments_eq (path : String) (count : Nat) :
    lastSegments path count = "/".intercalate ((segments path).rtake count) := rfl

/-- Without segments nothing is left. -/
lemma lastSegments_zero (path : String) : lastSegments path 0 = "" := by
  rw [lastSegments_eq, List.rtake_zero, String.intercalate_nil]

lemma length_rtake_segments (path : String) (count : Nat) :
    ((segments path).rtake count).length = min count (segments path).length := by
  rw [List.rtake, List.length_drop]
  omega

lemma rtake_segments_ne_nil (path : String) (h : 0 < count) : (segments path).rtake count ≠ [] := by
  have hpos := List.length_pos_iff.mpr (segments_ne_nil path)
  rw [← List.length_pos_iff, length_rtake_segments]
  omega

/-- What is left has the segments that were kept. -/
lemma segments_lastSegments (path : String) (h : 0 < count) :
    segments (lastSegments path count) = (segments path).rtake count :=
  segments_intercalate (rtake_segments_ne_nil path h) fun _ hpart =>
    not_mem_of_mem_segments (List.mem_of_mem_drop hpart)

lemma endsPath_lastSegments (path : String) (h : 0 < count) :
    EndsPath (lastSegments path count) path :=
  endsPath_intercalate (List.drop_suffix _ _) (rtake_segments_ne_nil path h)

lemma length_segments_lastSegments (path : String) (h : 0 < count) :
    (segments (lastSegments path count)).length = min count (segments path).length := by
  rw [segments_lastSegments path h, length_rtake_segments]

/-- A path is left whole when it has no more segments than are kept, and only then. -/
lemma lastSegments_eq_self_iff (path : String) (h : 0 < count) :
    lastSegments path count = path ↔ (segments path).length ≤ count := by
  constructor
  · intro hself
    have hlength := length_segments_lastSegments path h
    rw [hself] at hlength
    omega
  · intro hle
    rw [lastSegments_eq, List.rtake, Nat.sub_eq_zero_of_le hle, List.drop_zero,
      intercalate_segments]

/-- The end of an end is kept by the smaller number. -/
lemma rtake_rtake {α : Type} (xs : List α) (m n : Nat) :
    (xs.rtake m).rtake n = xs.rtake (min m n) := by
  simp only [List.rtake_eq_reverse_take_reverse, List.reverse_reverse, List.take_take,
    Nat.min_comm m]

/-- Nothing is left of the empty text: it is one segment, and that one is empty. -/
lemma lastSegments_empty (count : Nat) : lastSegments "" count = "" := by
  have hsuffix := lastSegments_suffix "" count
  rwa [String.toList_empty, List.suffix_nil, String.toList_eq_nil_iff] at hsuffix

/-- Cutting twice is cutting once with the smaller number. -/
lemma lastSegments_lastSegments (path : String) (m n : Nat) :
    lastSegments (lastSegments path m) n = lastSegments path (min m n) := by
  rcases m.eq_zero_or_pos with rfl | hm
  -- no segment left is one empty segment for the second cut
  · rw [lastSegments_zero, lastSegments_empty, Nat.zero_min, lastSegments_zero]
  · calc lastSegments (lastSegments path m) n
        = "/".intercalate ((segments (lastSegments path m)).rtake n) := lastSegments_eq _ n
      _ = "/".intercalate (((segments path).rtake m).rtake n) := by
          rw [segments_lastSegments path hm]
      _ = lastSegments path (min m n) := by rw [rtake_rtake, lastSegments_eq]

/-- **A stable cut**: what is left of a path starts at its beginning or behind a slash, has as many
segments as were asked for or all that there are, and is the whole path exactly when there are no
more. Cutting twice is cutting once with the smaller number, zero included. -/
theorem lastSegments_stable (path : String) :
    (∀ count, 0 < count →
      EndsPath (lastSegments path count) path
        ∧ (segments (lastSegments path count)).length = min count (segments path).length
        ∧ (lastSegments path count = path ↔ (segments path).length ≤ count))
    ∧ ∀ m n, lastSegments (lastSegments path m) n = lastSegments path (min m n) :=
  ⟨fun _ h => ⟨endsPath_lastSegments path h, length_segments_lastSegments path h,
    lastSegments_eq_self_iff path h⟩, lastSegments_lastSegments path⟩

/-- Empty segments count: the last three of this path begin with one. -/
theorem lastSegments_stable_empty_segments :
    0 < 3 ∧ lastSegments "/usr//include/" 3 = "/include/" ∧ EndsPath "/include/" "/usr//include/"
      ∧ (segments "/include/").length = 3 := by
  have hcut : lastSegments "/usr//include/" 3 = "/include/" := by decide
  obtain ⟨hends, hlength, -⟩ := (lastSegments_stable "/usr//include/").1 3 (by decide)
  rw [hcut] at hends hlength
  exact ⟨by decide, hcut, hends, hlength.trans (by decide)⟩

end LuaBinder.Text
