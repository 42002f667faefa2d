import M68HC05.Proofs.Coding
import M68HC05.Proofs.SavePath
import M68HC05.Storage.Directory

/-!
How paths are followed in a directory. A path that a file has ends in a name
(`Directory.Admits.exists_named`), and what it leads to depends on the name and on the way to it
alone (`Directory.admits_iff`). What is written to a folder is read back under its own name and
leaves the other names of the folder as they were (`Directory.Admits.read_put_iff`).
-/

namespace M68HC05

open Coder Location

namespace Directory

variable {directory : Directory} {path : String} {position : Position} {bytes : List UInt8}

/-! ## Names on the way -/

/-- The names of the directories that segments stand for. -/
def walk (folders : List (List Char)) : List String :=
  (folders.filter (!isBlank ·)).map String.ofList

theorem walk_append (first second : List (List Char)) :
    walk (first ++ second) = walk first ++ walk second := by
  unfold walk
  rw [List.filter_append, List.map_append]

theorem walk_blanks {blanks : List (List Char)}
    (blank : ∀ segment ∈ blanks, isBlank segment = true) :
    walk blanks = [] := by
  unfold walk
  rw [List.map_eq_nil_iff, List.filter_eq_nil_iff]
  intro segment within
  rw [blank segment within]
  decide

theorem walk_trimEnd (folders : List (List Char)) : walk (trimEnd folders) = walk folders := by
  have split : trimEnd folders ++ folders.rtakeWhile isBlank = folders :=
    List.rdropWhile_append_rtakeWhile
  have blank (segment : List Char) (within : segment ∈ folders.rtakeWhile isBlank) :
      isBlank segment = true := List.mem_rtakeWhile_imp within
  have whole := walk_append (trimEnd folders) (folders.rtakeWhile isBlank)
  rw [split, walk_blanks blank, List.append_nil] at whole
  exact whole.symm

/-- A directory is entered by its name, if it is there. -/
theorem enter_name (directory : Directory) (position : Position) {name : String}
    (point : name ≠ ".") (points : name ≠ "..") (names : List String) :
    directory.enter position (name :: names) =
      if maxName < name.utf8ByteSize then .error .nameTooLong
      else if directory.holds (position ++ [name]) then directory.enter (position ++ [name]) names
      else if (directory.content? (position ++ [name])).isSome then .error .notDirectory
      else .error .notFound := by
  rw [enter]
  · exact point
  · exact points

/-- A single point on the way leads nowhere else. -/
theorem enter_points (directory : Directory) (position : Position) (names : List String) :
    directory.enter position (names.filter (· ≠ ".")) = directory.enter position names := by
  induction names generalizing position with
  | nil => rfl
  | cons name names ih =>
    by_cases point : name = "."
    · subst point
      rw [List.filter_cons_of_neg (by decide), ih, enter]
    · rw [List.filter_cons_of_pos (by simpa using point)]
      by_cases points : name = ".."
      · subst points
        rw [enter, enter, ih]
      · rw [enter_name directory position point points, enter_name directory position point points,
          ih]

theorem ofList_eq_iff {text : List Char} {other : String} :
    String.ofList text = other ↔ text = other.toList := by
  rw [← String.toList_inj, String.toList_ofList]

/-- The names in a path, less the single points, are those that its segments stand for. -/
theorem points_namesOf (path : String) :
    (namesOf path).filter (· ≠ ".") = walk (segments path) := by
  have same (segment : List Char) :
      (decide (String.ofList segment ≠ ".") && decide (segment ≠ [])) = !isBlank segment := by
    unfold isBlank
    simp only [ne_eq, ofList_eq_iff, decide_not, Bool.not_or]
    exact Bool.and_comm _ _
  unfold namesOf walk
  rw [List.filter_map, List.filter_filter]
  exact congrArg (List.map String.ofList) (List.filter_congr fun segment _ => same segment)

/-- The last name in a path is its last segment, if that is not empty. -/
theorem namesOf_concat {front : List (List Char)} {last : List Char}
    (ends : segments path = front ++ [last]) (text : last ≠ []) :
    namesOf path = (front.filter (· ≠ [])).map String.ofList ++ [String.ofList last] := by
  unfold namesOf
  rw [ends, List.filter_append, List.map_append,
    List.filter_cons_of_pos (by simpa using text)]
  rfl

/-! ## Paths that end in a name -/

section Named

variable {root : List Char} {folders : List (List Char)} {name : List Char}

/-- The last name of the path is the name, and the others are the way to it. -/
theorem exists_namesOf (named : Named path root folders name) :
    ∃ front, namesOf path = front ++ [String.ofList name] ∧
      front.filter (· ≠ ".") = walk folders := by
  obtain ⟨lead, whole, blank⟩ := named.parted.exists_lead
  have last : walk [name] = [String.ofList name] := by
    unfold walk
    rw [List.filter_cons_of_pos (by rw [isBlank_eq_false named.text named.notPoint]; rfl)]
    rfl
  have ends : segments path = (lead ++ folders) ++ [name] := by
    rw [whole, List.append_assoc]
  have names := namesOf_concat ends named.text
  refine ⟨_, names, ?_⟩
  have points := points_namesOf path
  have notPoint : String.ofList name ≠ "." := fun same => named.notPoint (ofList_eq_iff.mp same)
  rw [names, whole, walk_append, walk_append, walk_blanks blank, List.nil_append, last,
    List.filter_append, List.filter_cons_of_pos (by simpa using notPoint)] at points
  exact List.append_cancel_right points

theorem startOf_eq (named : Named path root folders name) :
    startOf path = if root = ['/'] then ["/"] else [] := by
  unfold startOf
  exact if_congr named.head?_eq_iff rfl rfl

theorem asksDirectory_eq (named : Named path root folders name) : asksDirectory path = false := by
  unfold asksDirectory
  rw [named.toList_eq, getLast?_join named.text]
  refine decide_eq_false fun ends => ?_
  exact named.plain name (List.mem_append_right _ List.mem_cons_self) (List.mem_of_getLast? ends)

/-- A path that ends in a name is followed to a name in a directory. -/
theorem resolve_eq (named : Named path root folders name)
    (zeroless : path.toList.contains '\x00' = false) (short : path.utf8ByteSize < maxPath) :
    directory.resolve path = (do
      let position ← directory.enter (startOf path) (walk folders)
      return .entry position (String.ofList name)) := by
  obtain ⟨front, names, points⟩ := exists_namesOf named
  have some : path ≠ "" := by
    rintro rfl
    have ends : (root ++ join (folders ++ [name])).getLast? = name.getLast? :=
      getLast?_join named.text
    rw [← named.toList_eq] at ends
    exact named.text (List.getLast?_eq_none_iff.mp ends.symm)
  have notUp : ¬ (String.ofList name = "." ∨ String.ofList name = "..") := by
    rintro (same | same)
    · exact named.notPoint (ofList_eq_iff.mp same)
    · exact named.notPoints (ofList_eq_iff.mp same)
  unfold resolve
  rw [if_neg (by rw [zeroless]; exact Bool.false_ne_true), if_neg (Nat.not_le_of_lt short),
    if_neg some]
  dsimp only
  rw [names, List.getLast?_concat, List.dropLast_concat]
  dsimp only
  rw [← enter_points, points]
  simp only [if_neg notUp]

end Named

/-! ## Positions -/

/-- A path leads to a name in a folder, and the file system lets a file have the name there. -/
structure Admits (directory : Directory) (path : String) (folder : Position) (name : String) :
    Prop where
  resolves : directory.resolve path = .ok (.entry folder name)
  file : asksDirectory path = false
  short : name.utf8ByteSize ≤ maxName
  free : directory.holds (folder ++ [name]) = false

/-- What comes after a check is reached by passing it. -/
theorem check_eq_ok_iff {ε α β : Type} {condition : Prop} [Decidable condition] {fault : ε}
    {next : α → Except ε β} {rest : Except ε β} {value : β} :
    (if condition then throw fault >>= next else rest) = .ok value ↔
      ¬ condition ∧ rest = .ok value := by
  by_cases fails : condition
  · rw [if_pos fails]
    exact ⟨fun reached => (nomatch reached), fun passed => absurd fails passed.1⟩
  · rw [if_neg fails]
    exact ⟨fun reached => ⟨fails, reached⟩, And.right⟩

theorem positionToWrite_eq_ok_iff : directory.positionToWrite path = .ok position ↔
    ∃ folder name, directory.Admits path folder name ∧ position = folder ++ [name] := by
  unfold positionToWrite
  constructor
  · intro found
    obtain ⟨target, resolves, found⟩ := bind_eq_ok.mp found
    rcases target with _ | ⟨folder, name⟩
    · cases found
    · obtain ⟨file, found⟩ := check_eq_ok_iff.mp found
      obtain ⟨short, found⟩ := check_eq_ok_iff.mp found
      obtain ⟨free, found⟩ := check_eq_ok_iff.mp found
      cases found
      exact ⟨folder, name, ⟨resolves, Bool.eq_false_iff.mpr file,
        Nat.le_of_not_lt short, Bool.eq_false_iff.mpr free⟩, rfl⟩
  · rintro ⟨folder, name, admits, rfl⟩
    refine bind_eq_ok.mpr ⟨_, admits.resolves, ?_⟩
    refine check_eq_ok_iff.mpr ⟨Bool.eq_false_iff.mp admits.file, ?_⟩
    refine check_eq_ok_iff.mpr ⟨Nat.not_lt_of_le admits.short, ?_⟩
    exact check_eq_ok_iff.mpr ⟨Bool.eq_false_iff.mp admits.free, rfl⟩

theorem read_eq_ok_iff : directory.read path = .ok bytes ↔
    ∃ folder name, directory.Admits path folder name ∧
      directory.content? (folder ++ [name]) = some bytes := by
  unfold read
  constructor
  · intro found
    obtain ⟨target, resolves, found⟩ := bind_eq_ok.mp found
    rcases target with _ | ⟨folder, name⟩
    · cases found
    · obtain ⟨short, found⟩ := check_eq_ok_iff.mp found
      obtain ⟨free, found⟩ := check_eq_ok_iff.mp found
      rcases content : directory.content? (folder ++ [name]) with _ | stored
      · rw [content] at found
        cases found
      rw [content] at found
      dsimp only at found
      by_cases file : asksDirectory path = true
      · rw [if_pos file] at found
        cases found
      rw [if_neg file] at found
      cases found
      exact ⟨folder, name, ⟨resolves, Bool.eq_false_iff.mpr file, Nat.le_of_not_lt short,
        Bool.eq_false_iff.mpr free⟩, content⟩
  · rintro ⟨folder, name, admits, content⟩
    refine bind_eq_ok.mpr ⟨_, admits.resolves, ?_⟩
    refine check_eq_ok_iff.mpr ⟨Nat.not_lt_of_le admits.short, ?_⟩
    refine check_eq_ok_iff.mpr ⟨Bool.eq_false_iff.mp admits.free, ?_⟩
    rw [content]
    exact if_neg (Bool.eq_false_iff.mp admits.file)

/-- What is followed to a name in a folder ends in that name. -/
theorem resolve_eq_ok {folder : Position} {name : String}
    (resolves : directory.resolve path = .ok (.entry folder name)) :
    path.toList.contains '\x00' = false ∧ path.utf8ByteSize < maxPath ∧ path ≠ "" ∧
      (namesOf path).getLast? = some name ∧ name ≠ "." ∧ name ≠ ".." := by
  unfold resolve at resolves
  by_cases zero : path.toList.contains '\x00' = true
  · rw [if_pos zero] at resolves
    cases resolves
  by_cases long : maxPath ≤ path.utf8ByteSize
  · rw [if_neg zero, if_pos long] at resolves
    cases resolves
  by_cases empty : path = ""
  · rw [if_neg zero, if_neg long, if_pos empty] at resolves
    cases resolves
  rw [if_neg zero, if_neg long, if_neg empty] at resolves
  dsimp only at resolves
  rcases ends : (namesOf path).getLast? with _ | last
  · rw [ends] at resolves
    cases resolves
  rw [ends] at resolves
  obtain ⟨position, -, resolves⟩ := bind_eq_ok.mp resolves
  by_cases points : last = "." ∨ last = ".."
  · rw [if_pos points] at resolves
    cases resolves
  rw [if_neg points] at resolves
  cases resolves
  exact ⟨Bool.eq_false_iff.mpr zero, Nat.lt_of_not_le long, empty, rfl, not_or.mp points⟩

/-- A path that ends in a separator asks for a directory. -/
theorem asksDirectory_of_empty {front : List (List Char)} (more : segments path ≠ [[]])
    (ends : segments path = front ++ [[]]) : asksDirectory path = true := by
  have longer : front ≠ [] := by
    rintro rfl
    exact more ends
  unfold asksDirectory
  rw [← join_segments, ends, join_concat longer, List.getLast?_concat]
  rfl

/-- A path that a file has ends in a name. -/
theorem Admits.exists_named {folder : Position} {name : String}
    (admits : directory.Admits path folder name) :
    ∃ root folders last, Named path root folders last := by
  obtain ⟨-, -, some, ends, notPoint, notPoints⟩ := resolve_eq_ok admits.resolves
  have more : segments path ≠ [[]] := by
    intro single
    have text := join_segments path
    rw [single, join_singleton] at text
    exact some (String.toList_inj.mp text.symm)
  obtain ⟨root, rest, parted⟩ := exists_parted more
  obtain ⟨lead, whole, blank⟩ := parted.exists_lead
  rcases List.eq_nil_or_concat' rest with rfl | ⟨folders, last, rfl⟩
  · have points := points_namesOf path
    rw [whole, List.append_nil, walk_blanks blank, List.filter_eq_nil_iff] at points
    exact absurd (decide_eq_true notPoint) (points name (List.mem_of_getLast? ends))
  · rw [← List.append_assoc] at whole
    have text : last ≠ [] := by
      rintro rfl
      exact Bool.eq_false_iff.mp admits.file (asksDirectory_of_empty more whole)
    rw [namesOf_concat whole text, List.getLast?_concat] at ends
    obtain rfl := Option.some.inj ends
    refine ⟨root, folders, last, parted, text, ?_, ?_⟩
    · rintro rfl
      exact notPoint rfl
    · rintro rfl
      exact notPoints rfl

/-- What a path admits is what its name admits at the end of the way to it. -/
theorem admits_iff {root : List Char} {folders : List (List Char)} {name : List Char}
    (named : Named path root folders name) {folder : Position} {text : String} :
    directory.Admits path folder text ↔
      (path.toList.contains '\x00' = false ∧ path.utf8ByteSize < maxPath) ∧
        directory.enter (startOf path) (walk folders) = .ok folder ∧
        text = String.ofList name ∧ text.utf8ByteSize ≤ maxName ∧
        directory.holds (folder ++ [text]) = false := by
  constructor
  · intro admits
    obtain ⟨zeroless, short, -⟩ := resolve_eq_ok admits.resolves
    have resolves := admits.resolves
    rw [resolve_eq named zeroless short] at resolves
    obtain ⟨position, entered, resolves⟩ := bind_eq_ok.mp resolves
    cases resolves
    exact ⟨⟨zeroless, short⟩, entered, rfl, admits.short, admits.free⟩
  · rintro ⟨⟨zeroless, short⟩, entered, rfl, fits, free⟩
    refine ⟨?_, asksDirectory_eq named, fits, free⟩
    rw [resolve_eq named zeroless short]
    exact bind_eq_ok.mpr ⟨folder, entered, rfl⟩

/-! ## Writing -/

theorem lookup_filter_of_ne {other : Position} (apart : other ≠ position)
    (files : List (Position × List UInt8)) :
    (files.filter (·.1 ≠ position)).lookup other = files.lookup other := by
  induction files with
  | nil => rfl
  | cons entry files ih =>
    obtain ⟨place, content⟩ := entry
    by_cases same : place = position
    · have skipped : (other == place) = false := by
        rw [same]
        exact beq_eq_false_iff_ne.mpr apart
      rw [List.filter_cons_of_neg (by simpa using same), ih, List.lookup_cons, skipped]
    · rw [List.filter_cons_of_pos (by simpa using same), List.lookup_cons, List.lookup_cons, ih]

theorem content?_put (directory : Directory) (position other : Position) (bytes : List UInt8) :
    (directory.put position bytes).content? other =
      if other = position then some bytes else directory.content? other := by
  unfold put content?
  rw [List.lookup_cons]
  by_cases same : other = position
  · rw [beq_iff_eq.mpr same, if_pos same]
  · rw [beq_eq_false_iff_ne.mpr same, if_neg same]
    exact lookup_filter_of_ne same directory.files

/-- There is a directory at a position: one of those that are always there, or one with a file
below. -/
theorem holds_iff : directory.holds position = true ↔
    position.all (fun name => name = ".." || name = "/") = true ∨
      ∃ entry ∈ directory.files, position <+: entry.1 ∧ position ≠ entry.1 := by
  unfold holds
  simp only [Bool.or_eq_true, List.any_eq_true, Bool.and_eq_true, List.isPrefixOf_iff_prefix,
    decide_eq_true_eq]

theorem holds_put_iff (directory : Directory) (target : Position) (bytes : List UInt8) :
    (directory.put target bytes).holds position = true ↔
      directory.holds position = true ∨ position <+: target ∧ position ≠ target := by
  rw [holds_iff, holds_iff]
  constructor
  · rintro (always | ⟨entry, within, below⟩)
    · exact .inl (.inl always)
    · rcases List.mem_cons.mp within with rfl | within
      · exact .inr below
      · exact .inl (.inr ⟨entry, (List.mem_filter.mp within).1, below⟩)
  · rintro ((always | ⟨entry, within, below⟩) | below)
    · exact .inl always
    · by_cases same : entry.1 = target
      · exact .inr ⟨(target, bytes), List.mem_cons_self, same ▸ below⟩
      · have kept : entry ∈ directory.files.filter (·.1 ≠ target) :=
          List.mem_filter.mpr ⟨within, by simpa using same⟩
        exact .inr ⟨entry, List.mem_cons_of_mem _ kept, below⟩
    · exact .inr ⟨(target, bytes), List.mem_cons_self, below⟩

theorem enter_put {names : List String} {reached : Position}
    (entered : directory.enter position names = .ok reached) (target : Position)
    (bytes : List UInt8) : (directory.put target bytes).enter position names = .ok reached := by
  induction names generalizing position with
  | nil => exact entered
  | cons name names ih =>
    by_cases point : name = "."
    · subst point
      rw [enter] at entered ⊢
      exact ih entered
    by_cases points : name = ".."
    · subst points
      rw [enter] at entered ⊢
      exact ih entered
    rw [enter_name _ _ point points] at entered ⊢
    by_cases long : maxName < name.utf8ByteSize
    · rw [if_pos long] at entered
      cases entered
    rw [if_neg long] at entered ⊢
    by_cases held : directory.holds (position ++ [name]) = true
    · rw [if_pos held] at entered
      rw [if_pos ((holds_put_iff directory target bytes).mpr (.inl held))]
      exact ih entered
    · rw [if_neg held] at entered
      split at entered
      · cases entered
      · cases entered

/-- What a path admits it admits also after a file has been written to the same folder. -/
theorem Admits.put {folder : Position} {name : String}
    (admits : directory.Admits path folder name) (other : String) (bytes : List UInt8) :
    (directory.put (folder ++ [other]) bytes).Admits path folder name := by
  obtain ⟨root, folders, last, named⟩ := admits.exists_named
  obtain ⟨text, entered, same, fits, free⟩ := (admits_iff named).mp admits
  refine (admits_iff named).mpr ⟨text, enter_put entered _ bytes, same, fits, ?_⟩
  rw [Bool.eq_false_iff, Ne, holds_put_iff, not_or]
  refine ⟨Bool.eq_false_iff.mp free, fun ⟨within, apart⟩ => apart ?_⟩
  exact within.eq_of_length (by rw [List.length_append, List.length_append]; rfl)

/-- A path is read at the position that it leads to. -/
theorem Admits.read_iff {folder : Position} {name : String}
    (admits : directory.Admits path folder name) :
    directory.read path = .ok bytes ↔ directory.content? (folder ++ [name]) = some bytes := by
  rw [read_eq_ok_iff]
  constructor
  · rintro ⟨_, _, found, content⟩
    have same := found.resolves.symm.trans admits.resolves
    cases same
    exact content
  · exact fun content => ⟨folder, name, admits, content⟩

/-- After a file has been written to the folder of another, the other reads as before unless it is
the same. -/
theorem Admits.read_put_iff {folder : Position} {name : String}
    (admits : directory.Admits path folder name) (other : String) (written : List UInt8) :
    (directory.put (folder ++ [other]) written).read path = .ok bytes ↔
      if name = other then written = bytes else directory.read path = .ok bytes := by
  rw [(admits.put other written).read_iff, content?_put]
  by_cases same : name = other
  · rw [if_pos (by rw [same]), if_pos same]
    exact Option.some_inj
  · rw [if_neg fun places => same (List.append_cancel_left places |> List.singleton_inj.mp),
      if_neg same, admits.read_iff]

end Directory
end M68HC05
