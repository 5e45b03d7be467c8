import LuaBinder.Lua.Include
import LuaBinder.Proofs.Text.Paths

/-!
Include paths by the components of the header path.

The search for the base directory is a search in a text: for the directory between two slashes, and
then for the directory at the very start. With a slash in front of the header these are one search,
and what it finds are the places where the components of the directory stand one after another.

* `Below`, `LastBelow`: the components behind a directory in a path, and behind its last place.
* `below_segments_iff`: the directory stands among the components where it stands between slashes.
* `belowBase?_eq`: the two searches as one; `lastBelow_of_belowBase?` and `not_below_of_belowBase?`:
  what it finds, and when it finds nothing.
* `includePath_below_base`: the path under which a header is included is what stands behind the
  last place of the base directory, else the last component; it is always the end of the header.
-/

namespace LuaBinder.Lua

open Text

/-! ### Components behind a directory -/

/-- The components of a directory stand in a path, with at least one more component behind them. -/
structure Below (directory path below : List String) : Prop where
  split : ∃ above, path = above ++ directory ++ below
  nonempty : below ≠ []

/-- They do not stand in the path again further on. -/
structure LastBelow (directory path below : List String) : Prop extends
    Below directory path below where
  last : ∀ other, Below directory path other → below.length ≤ other.length

/-- The base directory without the slashes around it. -/
def trimmedBase (base : String) : String := String.ofList (trimSlashes base.toList)

/-- The components of the base directory. -/
def baseSegments (base : String) : List String := segments (trimmedBase base)

/-- What stands behind a directory is a path of its own. -/
lemma Below.segments_intercalate {directory below : List String} {header : String}
    (h : Below directory (segments header) below) :
    segments ("/".intercalate below) = below := by
  obtain ⟨⟨above, hsplit⟩, hne⟩ := h
  refine Text.segments_intercalate hne fun part hpart => ?_
  have hmem : part ∈ segments header := hsplit ▸ List.mem_append_right _ hpart
  exact not_mem_of_mem_segments hmem

/-- A directory stands among the components of a path where it stands between two slashes, once a
slash is put in front of the path. -/
lemma below_segments_iff {directory header rest : String} :
    Below (segments directory) (segments header) (segments rest)
      ↔ ∃ front, "/" ++ header = front ++ "/" ++ directory ++ "/" ++ rest := by
  have hsegments : segments ("/" ++ header) = "" :: segments header := segments_append "" header
  constructor
  · rintro ⟨⟨above, hsplit⟩, -⟩
    refine ⟨"/".intercalate ("" :: above), ?_⟩
    calc "/" ++ header = "/".intercalate (segments ("/" ++ header)) :=
          (intercalate_segments _).symm
      _ = "/".intercalate ("" :: above ++ segments directory ++ segments rest) := by
          rw [hsegments, hsplit]
          rfl
      _ = "/".intercalate ("" :: above) ++ "/" ++ directory ++ "/" ++ rest := by
          rw [String.intercalate_append_of_ne_nil (by simp) (segments_ne_nil rest),
            String.intercalate_append_of_ne_nil (by simp) (segments_ne_nil directory),
            intercalate_segments, intercalate_segments]
  · rintro ⟨front, hfront⟩
    refine ⟨⟨(segments front).tail, ?_⟩, segments_ne_nil rest⟩
    have hwhole := congrArg (fun path => (segments path).tail) hfront
    simpa only [hsegments, segments_append, List.tail_cons, List.append_assoc,
      List.tail_append_of_ne_nil (segments_ne_nil front)] using hwhole

/-! ### The search -/

/-- The text that the search looks for: the base directory between two slashes. -/
def marker (base : String) : List Char := '/' :: trimSlashes base.toList ++ ['/']

/-- With a slash in front of the header the directory at its start is found like any other. -/
lemma belowBase?_eq (base header : String) : belowBase? base header
    = (splitLast? (marker base) ('/' :: header.toList)).map fun cut => String.ofList cut.2 := by
  have hhead : afterHead? (marker base) ('/' :: header.toList)
      = afterHead? (trimSlashes base.toList ++ ['/']) header.toList := by
    rw [marker, List.cons_append, afterHead?, if_pos rfl]
  rw [belowBase?, splitLast?, hhead, marker]
  cases splitLast? ('/' :: trimSlashes base.toList ++ ['/']) header.toList with
  | some cut => rfl
  | none =>
      dsimp only
      rw [Option.map_map]
      rfl

/-- The directory between slashes as a part of the characters. -/
lemma toList_marker {base header front rest : String} :
    "/" ++ header = front ++ "/" ++ trimmedBase base ++ "/" ++ rest
      ↔ '/' :: header.toList = front.toList ++ marker base ++ rest.toList := by
  rw [← String.toList_inj]
  simp [trimmedBase, marker]

/-- What is found is what stands behind the last place of the directory. -/
lemma lastBelow_of_belowBase? {base header rest : String} (h : belowBase? base header = some rest) :
    LastBelow (baseSegments base) (segments header) (segments rest) := by
  rw [belowBase?_eq] at h
  obtain ⟨⟨front, found⟩, hcut, rfl⟩ := Option.map_eq_some_iff.mp h
  have hplace := eq_of_splitLast? hcut
  refine ⟨below_segments_iff.mpr ⟨String.ofList front, toList_marker.mpr ?_⟩, fun other hother => ?_⟩
  · rw [String.toList_ofList, String.toList_ofList]
    exact hplace
  · have hparts := hother.segments_intercalate
    rw [← hparts] at hother
    obtain ⟨before, hbefore⟩ := below_segments_iff.mp hother
    have hafter := toList_marker.mp hbefore
    have hlength := length_le_of_splitLast? hcut hafter
    -- both are ends of the header, so the shorter one is the end of the other
    have hsuffix : found <:+ ("/".intercalate other).toList :=
      List.suffix_of_suffix_length_le ⟨_, hplace.symm⟩ ⟨_, hafter.symm⟩ hlength
    rw [← hparts, length_segments, length_segments, String.toList_ofList]
    exact Nat.succ_le_succ (hsuffix.sublist.count_le '/')

/-- Nothing is found only where the directory does not stand in the path. -/
lemma not_below_of_belowBase? {base header : String} (h : belowBase? base header = none)
    {below : List String} : ¬ Below (baseSegments base) (segments header) below := by
  intro hbelow
  rw [← hbelow.segments_intercalate] at hbelow
  obtain ⟨front, hfront⟩ := below_segments_iff.mp hbelow
  rw [belowBase?_eq, Option.map_eq_none_iff, splitLast?_eq_none_iff] at h
  exact h ⟨front.toList, _, (toList_marker.mp hfront).symm⟩

/-! ### The path of an include -/

/-- **Include paths.** Where the components of the base directory stand in the path of a header,
with at least one more component behind them, the header is included under the components behind
their last place. Otherwise, and without a base directory, it is included under its last component.
Either way the path is the end of the header. -/
theorem includePath_below_base (o : Options) (header : String) :
    (∀ base ∈ o.headerBase, (∃ below, Below (baseSegments base) (segments header) below) →
      ∃ below, LastBelow (baseSegments base) (segments header) below
        ∧ o.includePath header = "/".intercalate below)
    ∧ ((∀ base ∈ o.headerBase, ¬ ∃ below, Below (baseSegments base) (segments header) below) →
      (segments header).getLast? = some (o.includePath header))
    ∧ (o.includePath header).toList <:+ header.toList := by
  have hlast : (segments header).getLast? = some (lastSegments header 1) := getLast?_segments header
  rw [Options.includePath]
  cases hbase : o.headerBase with
  | none => exact ⟨fun _ h => absurd h (by simp), fun _ => hlast, lastSegments_suffix header 1⟩
  | some base =>
      rw [Option.bind_some]
      cases hsearch : belowBase? base header with
      | none =>
          refine ⟨?_, fun _ => hlast, lastSegments_suffix header 1⟩
          rintro _ ⟨⟩ ⟨below, hbelow⟩
          exact absurd hbelow (not_below_of_belowBase? hsearch)
      | some rest =>
          have hbelow := lastBelow_of_belowBase? hsearch
          refine ⟨?_, fun h => absurd ⟨_, hbelow.toBelow⟩ (h base rfl), ?_⟩
          · rintro _ ⟨⟩ -
            exact ⟨_, hbelow, (intercalate_segments rest).symm⟩
          · obtain ⟨above, hsplit⟩ := hbelow.split
            have hend : segments rest <:+ segments header := ⟨_, hsplit.symm⟩
            have hsuffix := intercalate_suffix hend
            rwa [intercalate_segments] at hsuffix

/-- The last place of a directory may share components with the place before it. -/
example : ({ headerBase := some "/a/b/a/" } : Options).includePath "a/b/a/b/a/c.h" = "c.h" := by
  decide

/-- A directory is no part of a longer name. -/
example : ({ headerBase := some "include" } : Options).includePath "/src/include/my-include/a.h"
    = "my-include/a.h" := by
  decide

end LuaBinder.Lua
