import Mathlib.Data.List.DropRight
import M68HC05.Snapshot.Location

/-!
The path of a saved state as a text and as the segments of the text. The text of a path and its
segments are two forms of one thing (`join_segments`, `segments_join`). A path that ends in a name
is a beginning, the segments of a directory and that name (`Named`), and so is the path of the saved
state, with the same beginning, the same directory and the extension in place of the name's own
(`Named.statePath`). The names are the same exactly if the extension is (`stateName_eq_iff`).
-/

namespace M68HC05.Location

/-! ## Text and segments -/

theorem go_eq_splitOn (text : List Char) : segments.go text = text.splitOn '/' := by
  induction text with
  | nil => rfl
  | cons c text ih =>
    rw [List.splitOn_cons_eq_if_modifyHead]
    by_cases separator : c = '/'
    · subst separator
      rw [segments.go, ih]
      rfl
    · rw [if_neg fun same => separator (beq_iff_eq.mp same), segments.go, ih]
      · rcases pieces : text.splitOn '/' with _ | ⟨segment, more⟩
        · exact absurd pieces (List.splitOn_ne_nil '/' text)
        · rfl
      · exact separator

theorem join_segments (path : String) : join (segments path) = path.toList := by
  unfold segments join
  rw [go_eq_splitOn]
  exact List.intercalate_splitOn '/'

theorem segments_join {all : List (List Char)} (more : all ≠ [])
    (plain : ∀ segment ∈ all, '/' ∉ segment) : segments (String.ofList (join all)) = all := by
  unfold segments join
  rw [go_eq_splitOn, String.toList_ofList]
  exact List.splitOn_intercalate '/' plain more

theorem segments_ne_nil (path : String) : segments path ≠ [] := by
  unfold segments
  rw [go_eq_splitOn]
  exact List.splitOn_ne_nil '/' path.toList

/-- No segment holds a separator. -/
theorem segments_plain (path : String) : ∀ segment ∈ segments path, '/' ∉ segment := by
  unfold segments
  rw [go_eq_splitOn]
  induction path.toList with
  | nil => simp
  | cons c text ih =>
    rw [List.splitOn_cons_eq_if_modifyHead]
    rcases pieces : text.splitOn '/' with _ | ⟨first, more⟩
    · exact absurd pieces (List.splitOn_ne_nil '/' text)
    rw [pieces, List.forall_mem_cons] at ih
    by_cases separator : c = '/'
    · rw [if_pos (beq_iff_eq.mpr separator), List.forall_mem_cons, List.forall_mem_cons]
      exact ⟨List.not_mem_nil, ih⟩
    · rw [if_neg fun same => separator (beq_iff_eq.mp same), List.modifyHead_cons,
        List.forall_mem_cons, List.mem_cons, not_or]
      exact ⟨⟨fun same => separator same.symm, ih.1⟩, ih.2⟩

theorem join_singleton (segment : List Char) : join [segment] = segment :=
  List.intercalate_singleton

theorem join_cons {segment : List Char} {all : List (List Char)} (more : all ≠ []) :
    join (segment :: all) = segment ++ '/' :: join all := by
  rcases all with _ | ⟨next, all⟩
  · exact absurd rfl more
  · unfold join
    rw [List.intercalate_cons_cons, List.append_assoc]
    rfl

theorem join_concat {all : List (List Char)} (more : all ≠ []) (segment : List Char) :
    join (all ++ [segment]) = join all ++ '/' :: segment := by
  induction all with
  | nil => exact absurd rfl more
  | cons first all ih =>
    by_cases single : all = []
    · subst single
      rw [List.singleton_append, join_cons (List.cons_ne_nil segment []), join_singleton,
        join_singleton]
    · have longer : all ++ [segment] ≠ [] := fun empty => single (List.append_eq_nil_iff.mp empty).1
      rw [List.cons_append, join_cons longer, ih single, join_cons single, List.append_assoc]
      rfl

theorem head?_join_cons (c : Char) (first : List Char) (others : List (List Char)) :
    (join ((c :: first) :: others)).head? = some c := by
  by_cases single : others = []
  · rw [single, join_singleton]
    rfl
  · rw [join_cons single]
    rfl

/-- Fewer segments make a shorter text. -/
theorem join_sublist {fewer all : List (List Char)} (within : fewer.Sublist all) :
    (join fewer).Sublist (join all) := by
  induction within with
  | slnil => exact .slnil
  | @cons fewer all segment within ih =>
    by_cases last : all = []
    · subst last
      rw [List.sublist_nil.mp within]
      exact List.nil_sublist _
    · rw [join_cons last]
      exact (ih.cons '/').trans (List.sublist_append_right _ _)
  | @cons_cons fewer all segment within ih =>
    by_cases last : all = []
    · subst last
      rw [List.sublist_nil.mp within]
    · rw [join_cons last]
      by_cases single : fewer = []
      · rw [single, join_singleton]
        exact List.sublist_append_left _ _
      · rw [join_cons single]
        exact .append (.refl _) (.cons_cons '/' ih)

/-! ## Beginnings -/

/-- The segments of a path are its beginning, as a text that is ready to be followed by a segment,
and the rest. -/
inductive Parted : (root : List Char) → (rest all : List (List Char)) → Prop where
  | root {rest : List (List Char)} (more : rest ≠ []) : Parted ['/'] rest ([] :: rest)
  | here (rest : List (List Char)) : Parted ['.', '/'] rest (['.'] :: rest)
  | relative {first : List Char} {rest : List (List Char)} (text : first ≠ [])
      (other : first ≠ ['.']) : Parted [] (first :: rest) (first :: rest)

namespace Parted

variable {path : String} {root : List Char} {rest all : List (List Char)}

theorem split_eq (parted : Parted root rest (segments path)) : split path = ⟨root, rest⟩ := by
  unfold split
  generalize segments path = all at parted
  cases parted with
  | root more =>
    rcases rest with _ | ⟨first, rest⟩
    · exact absurd rfl more
    · rfl
  | here => rfl
  | relative text other =>
    split
    · rename_i same
      exact absurd (List.cons.inj same).1 text
    · rename_i same
      exact absurd (List.cons.inj same).1 text
    · rename_i same
      exact absurd (List.cons.inj same).1 other
    · rfl

theorem root_eq (parted : Parted root rest all) : root = ['/'] ∨ root = ['.', '/'] ∨ root = [] := by
  cases parted with
  | root => exact .inl rfl
  | here => exact .inr (.inl rfl)
  | relative => exact .inr (.inr rfl)

/-- The beginning stands in front of the rest, as a blank segment if it is one. -/
theorem exists_lead (parted : Parted root rest all) :
    ∃ lead, all = lead ++ rest ∧ ∀ segment ∈ lead, isBlank segment = true := by
  cases parted with
  | root => exact ⟨[[]], rfl, by decide⟩
  | here => exact ⟨[['.']], rfl, by decide⟩
  | relative => exact ⟨[], rfl, by decide⟩

theorem ne_nil (parted : Parted root rest all) : all ≠ [] := by
  cases parted with
  | root => exact List.cons_ne_nil _ _
  | here => exact List.cons_ne_nil _ _
  | relative => exact List.cons_ne_nil _ _

theorem first_of_relative {first : List Char} (parted : Parted [] (first :: rest) all) :
    first ≠ [] ∧ first ≠ ['.'] := by
  cases parted with
  | relative text other => exact ⟨text, other⟩

/-- The rest of a path can be exchanged, as long as it is not taken for a beginning. -/
theorem exists_exchanged (parted : Parted root rest all) {first : List Char}
    (others : List (List Char)) (kept : root = [] → first ≠ [] ∧ first ≠ ['.']) :
    ∃ exchanged, Parted root (first :: others) exchanged ∧
      ∀ segment ∈ exchanged, segment ∈ first :: others ∨ segment = [] ∨ segment = ['.'] := by
  rcases parted.root_eq with rfl | rfl | rfl
  · refine ⟨_, .root (List.cons_ne_nil first others), fun segment within => ?_⟩
    exact (List.mem_cons.mp within).elim (fun same => .inr (.inl same)) .inl
  · refine ⟨_, .here (first :: others), fun segment within => ?_⟩
    exact (List.mem_cons.mp within).elim (fun same => .inr (.inr same)) .inl
  · exact ⟨_, .relative (kept rfl).1 (kept rfl).2, fun _ => .inl⟩

theorem join_eq (parted : Parted root rest all) (more : rest ≠ []) :
    join all = root ++ join rest := by
  cases parted with
  | root => exact join_cons more
  | here => exact join_cons more
  | relative => rfl

end Parted

/-- There are a beginning and a rest, unless there is no text. -/
theorem exists_parted {path : String} (some : segments path ≠ [[]]) :
    ∃ root rest, Parted root rest (segments path) := by
  rcases all : segments path with _ | ⟨first, rest⟩
  · exact absurd all (segments_ne_nil path)
  · by_cases empty : first = []
    · subst empty
      refine ⟨_, _, .root fun ended => some ?_⟩
      rw [all, ended]
    · by_cases point : first = ['.']
      · subst point
        exact ⟨_, _, .here rest⟩
      · exact ⟨_, _, .relative empty point⟩

/-! ## Names -/

/-- The name of the saved state that belongs to a name. -/
def stateName (name : List Char) : List Char :=
  stem name ++ ".state".toList

/-- A name that has the extension of saved states and something before it. -/
def HasStateExtension (name : List Char) : Prop :=
  ∃ front, front ≠ [] ∧ name = front ++ ".state".toList

theorem stem_within (name : List Char) : stem name <+: name := by
  unfold stem
  split
  · exact List.prefix_rfl
  · rename_i point before found
    split
    · exact List.prefix_rfl
    · have within : point :: before <:+ name.reverse :=
        found ▸ List.dropWhile_suffix _
      have shorter := List.reverse_prefix.mpr ((List.suffix_cons point before).trans within)
      rwa [List.reverse_reverse] at shorter

theorem stem_ne_nil {name : List Char} (some : name ≠ []) : stem name ≠ [] := by
  unfold stem
  split
  · exact some
  · split
    · exact some
    · rename_i longer
      exact fun empty => longer (List.reverse_eq_nil_iff.mp empty)

theorem stem_append {front : List Char} (some : front ≠ []) :
    stem (front ++ ".state".toList) = front := by
  have longer : front.reverse ≠ [] := fun empty => some (List.reverse_eq_nil_iff.mp empty)
  unfold stem
  rw [List.reverse_append]
  change (if front.reverse = [] then front ++ ".state".toList else front.reverse.reverse) = front
  rw [if_neg longer, List.reverse_reverse]

/-- A name is that of its own saved state exactly if it has the extension of one. -/
theorem stateName_eq_iff {name : List Char} (some : name ≠ []) :
    stateName name = name ↔ HasStateExtension name := by
  unfold stateName
  constructor
  · exact fun same => ⟨stem name, stem_ne_nil some, same.symm⟩
  · rintro ⟨front, longer, rfl⟩
    rw [stem_append longer]

theorem stateName_plain {name : List Char} (plain : '/' ∉ name) : '/' ∉ stateName name := by
  unfold stateName
  rw [List.mem_append, not_or]
  exact ⟨fun within => plain ((stem_within name).mem within), by decide⟩

/-- No name of a saved state is as short as a point or two. -/
theorem stateName_ne (name : List Char) {short : List Char} (few : short.length < 6) :
    stateName name ≠ short := by
  rintro rfl
  unfold stateName at few
  rw [List.length_append] at few
  exact Nat.not_lt.mpr (Nat.le_add_left 6 _) few

/-! ## Blank segments -/

theorem isBlank_eq_false {segment : List Char} (text : segment ≠ []) (other : segment ≠ ['.']) :
    isBlank segment = false := by
  unfold isBlank
  rw [decide_eq_false text, decide_eq_false other]
  rfl

theorem trimEnd_concat {all : List (List Char)} {last : List Char} (text : last ≠ [])
    (other : last ≠ ['.']) : trimEnd (all ++ [last]) = all ++ [last] := by
  have kept : ¬ isBlank last = true := by
    rw [isBlank_eq_false text other]
    exact Bool.false_ne_true
  exact List.rdropWhile_concat_neg isBlank all last kept

theorem trimEnd_within (all : List (List Char)) : trimEnd all <+: all :=
  List.rdropWhile_prefix isBlank all

/-- The last of what is kept is no blank. -/
theorem exists_last_of_trimEnd {all : List (List Char)} (some : trimEnd all ≠ []) :
    ∃ front last, trimEnd all = front ++ [last] ∧ last ≠ [] := by
  refine ⟨(trimEnd all).dropLast, (trimEnd all).getLast some,
    (List.dropLast_append_getLast some).symm, fun empty => ?_⟩
  have kept := List.rdropWhile_last_not isBlank all some
  exact kept (by rw [show (all.rdropWhile isBlank).getLast some = [] from empty]; rfl)

/-! ## Paths that end in a name -/

/-- A path that ends in a name: the segments after its beginning are a directory and the name. -/
structure Named (path : String) (root : List Char) (folders : List (List Char))
    (name : List Char) : Prop where
  parted : Parted root (folders ++ [name]) (segments path)
  text : name ≠ []
  notPoint : name ≠ ['.']
  notPoints : name ≠ ['.', '.']

/-- A path ends as its last segment does. -/
theorem getLast?_join {root : List Char} {front : List (List Char)} {last : List Char}
    (text : last ≠ []) : (root ++ join (front ++ [last])).getLast? = last.getLast? := by
  by_cases single : front = []
  · rw [single, List.nil_append, join_singleton, List.getLast?_append_of_ne_nil _ text]
  · rw [join_concat single, List.getLast?_append_of_ne_nil _ (by simp),
      List.getLast?_append_of_ne_nil _ (List.cons_ne_nil _ _), List.getLast?_cons_of_ne_nil text]

/-- A name goes behind a separator when the directory ends in a segment. -/
theorem inDirectory_join {root : List Char} {front : List (List Char)} {last name : List Char}
    (text : last ≠ []) (separator : '/' ∉ last) :
    inDirectory (root ++ join (front ++ [last])) name =
      root ++ join (front ++ [last]) ++ '/' :: name := by
  unfold inDirectory
  rw [getLast?_join text]
  split
  · rename_i nothing
    exact absurd (List.getLast?_eq_none_iff.mp nothing) text
  · rename_i same
    exact absurd (List.mem_of_getLast? same) separator
  · rfl

/-- The beginning and the directory of a path as a text, and a name in it. -/
theorem inDirectory_directoryText {root : List Char} {folders all : List (List Char)}
    {name other : List Char} (parted : Parted root (folders ++ [name]) all)
    (plain : ∀ segment ∈ folders, '/' ∉ segment) :
    inDirectory (directoryText root folders) other = root ++ join (trimEnd folders ++ [other]) := by
  by_cases empty : trimEnd folders = []
  · unfold directoryText
    rw [empty, List.nil_append, join_singleton]
    rcases parted.root_eq with rfl | rfl | rfl
    · rfl
    · rfl
    · rfl
  · obtain ⟨front, last, kept, text⟩ := exists_last_of_trimEnd empty
    have within : last ∈ trimEnd folders := by
      rw [kept]
      exact List.mem_append_right _ List.mem_cons_self
    have separator := plain last ((trimEnd_within folders).mem within)
    have directory : directoryText root folders = root ++ join (trimEnd folders) := by
      unfold directoryText
      split
      · rename_i nothing
        exact absurd nothing empty
      · rfl
    -- the directory ends in its last segment, so that a separator is put in between
    rw [directory, join_concat empty, kept, inDirectory_join text separator, List.append_assoc]

namespace Named

variable {path : String} {root : List Char} {folders : List (List Char)} {name : List Char}

theorem plain (named : Named path root folders name) :
    ∀ segment ∈ folders ++ [name], '/' ∉ segment := by
  obtain ⟨lead, whole, -⟩ := named.parted.exists_lead
  intro segment within
  apply segments_plain path
  rw [whole]
  exact List.mem_append_right lead within

theorem place_eq (named : Named path root folders name) :
    place path = ⟨some name, directoryText root folders⟩ := by
  unfold place
  rw [named.parted.split_eq]
  dsimp only
  rw [trimEnd_concat named.text named.notPoint, List.reverse_append, List.reverse_singleton,
    List.singleton_append]
  dsimp only
  rw [List.reverse_reverse]

theorem toList_eq (named : Named path root folders name) :
    path.toList = root ++ join (folders ++ [name]) := by
  rw [← join_segments, named.parted.join_eq (by simp)]

/-- A path begins with a separator exactly if it begins at the root. -/
theorem head?_eq_iff (named : Named path root folders name) :
    path.toList.head? = some '/' ↔ root = ['/'] := by
  rw [named.toList_eq]
  rcases named.parted.root_eq with rfl | rfl | rfl
  · exact ⟨fun _ => rfl, fun _ => rfl⟩
  · exact ⟨fun same => absurd (Option.some.inj same) (by decide),
      fun same => absurd same (by decide)⟩
  · refine ⟨fun same => ?_, fun same => absurd same (by decide)⟩
    have plain := named.plain
    have parted := named.parted
    rcases whole : folders ++ [name] with _ | ⟨first, others⟩
    · exact absurd (List.append_eq_nil_iff.mp whole).2 (List.cons_ne_nil _ _)
    rw [whole] at same plain parted
    rcases first with _ | ⟨c, first⟩
    · exact absurd rfl parted.first_of_relative.1
    · rw [List.nil_append, head?_join_cons] at same
      obtain rfl := Option.some.inj same
      exact absurd List.mem_cons_self (plain _ List.mem_cons_self)

/-- The text of the state path: the directory without blanks at its end, and the name of the saved
state. -/
theorem statePath_eq (named : Named path root folders name) :
    statePath path = String.ofList (root ++ join (trimEnd folders ++ [stateName name])) := by
  have plain (segment : List Char) (within : segment ∈ folders) : '/' ∉ segment :=
    named.plain segment (List.mem_append_left _ within)
  have leaf : imageName (some name) = stem name := if_neg named.notPoints
  unfold statePath
  rw [named.place_eq]
  dsimp only
  rw [leaf, inDirectory_directoryText named.parted plain]
  rfl

theorem plain_statePath (named : Named path root folders name) :
    ∀ segment ∈ trimEnd folders ++ [stateName name], '/' ∉ segment := by
  intro segment within
  rcases List.mem_append.mp within with inFolders | isName
  · exact named.plain segment (List.mem_append_left _ ((trimEnd_within folders).mem inFolders))
  · rw [List.mem_singleton.mp isName]
    exact stateName_plain (named.plain name (List.mem_append_right _ List.mem_cons_self))

/-- Where a path has no beginning, its state path begins with the same segment or with the name. -/
theorem first_statePath (named : Named path [] folders name) {first : List Char}
    {others : List (List Char)} (whole : trimEnd folders ++ [stateName name] = first :: others) :
    first ≠ [] ∧ first ≠ ['.'] := by
  rcases front : trimEnd folders with _ | ⟨start, inner⟩
  · rw [front, List.nil_append] at whole
    obtain ⟨rfl, -⟩ := List.cons.inj whole
    exact ⟨stateName_ne name (by decide), stateName_ne name (by decide)⟩
  · rw [front, List.cons_append] at whole
    obtain ⟨rfl, -⟩ := List.cons.inj whole
    obtain ⟨blanks, same⟩ := trimEnd_within folders
    have parted := named.parted
    rw [← same, front, List.cons_append, List.cons_append] at parted
    exact parted.first_of_relative

/-- The path of a saved state ends in a name, in the directory of the image. -/
theorem statePath (named : Named path root folders name) :
    Named (statePath path) root (trimEnd folders) (stateName name) := by
  have plain := named.plain_statePath
  have parted : Parted root (trimEnd folders ++ [stateName name])
      (segments (Location.statePath path)) := by
    rw [named.statePath_eq]
    rcases whole : trimEnd folders ++ [stateName name] with _ | ⟨first, others⟩
    · exact absurd (List.append_eq_nil_iff.mp whole).2 (List.cons_ne_nil _ _)
    have kept : root = [] → first ≠ [] ∧ first ≠ ['.'] := by
      rintro rfl
      exact named.first_statePath whole
    obtain ⟨all, parted, within⟩ := named.parted.exists_exchanged others kept
    have plainAll (segment : List Char) (inAll : segment ∈ all) : '/' ∉ segment := by
      rcases within segment inAll with inRest | rfl | rfl
      · rw [whole] at plain
        exact plain segment inRest
      · exact List.not_mem_nil
      · decide
    rw [← parted.join_eq (List.cons_ne_nil first others), segments_join parted.ne_nil plainAll]
    exact parted
  exact ⟨parted, stateName_ne name (by decide), stateName_ne name (by decide),
    stateName_ne name (by decide)⟩

/-- Where the names are the same, the state path is the image's path less its blanks. -/
theorem statePath_sublist (named : Named path root folders name) (same : stateName name = name) :
    (Location.statePath path).toList.Sublist path.toList := by
  rw [named.statePath_eq, String.toList_ofList, named.toList_eq, same]
  have within := (trimEnd_within folders).sublist
  exact .append (.refl root) (join_sublist (.append within (.refl [name])))

/-- The name is told by the path. -/
theorem name_eq (named : Named path root folders name) {other : List Char}
    {otherRoot : List Char} {otherFolders : List (List Char)}
    (again : Named path otherRoot otherFolders other) : name = other := by
  have same := named.place_eq.symm.trans again.place_eq
  exact Option.some.inj (congrArg Place.leaf same)

/-- The state path is another path unless the image has the extension of saved states. -/
theorem hasStateExtension_of_statePath_eq (named : Named path root folders name)
    (same : Location.statePath path = path) : HasStateExtension name := by
  have state := named.statePath
  rw [same] at state
  exact (stateName_eq_iff named.text).mp (state.name_eq named)

end Named

end M68HC05.Location
