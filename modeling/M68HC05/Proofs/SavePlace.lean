import Mathlib.Data.String.Basic
import M68HC05.Proofs.FileTree
import M68HC05.Proofs.Refusal
import M68HC05.Session

/-!
Where a session saves the state of its device. The path of a saved state leads into the folder of the
image (`Directory.admits_statePath`), and a session changes its files only by saving
(`Session.run_directory`), so that it leaves its image as it was, unless the image itself has the
extension of saved states.
-/

namespace M68HC05

open Location

namespace Directory

variable {directory : Directory} {path : String} {root : List Char} {folders : List (List Char)}
  {name : List Char} {folder : Position}

/-- The state path leads into the folder of the image. -/
theorem admits_statePath (named : Named path root folders name) {text other : String}
    {place : Position} (image : directory.Admits path folder text)
    (state : directory.Admits (statePath path) place other) :
    place = folder ∧ other = String.ofList (stateName name) := by
  obtain ⟨-, entered, -⟩ := (admits_iff named).mp image
  obtain ⟨-, again, same, -⟩ := (admits_iff named.statePath).mp state
  rw [startOf_eq named.statePath, ← startOf_eq named, walk_trimEnd, entered] at again
  cases again
  exact ⟨rfl, same⟩

/-- Where the names are the same, what the path admits is admitted by the state path too. -/
theorem Admits.statePath {text : String} (named : Named path root folders name)
    (same : stateName name = name) (image : directory.Admits path folder text) :
    directory.Admits (statePath path) folder text := by
  obtain ⟨⟨zeroless, short⟩, entered, isName, fits, free⟩ := (admits_iff named).mp image
  have fewer := named.statePath_sublist same
  refine (admits_iff named.statePath).mpr ⟨⟨?_, ?_⟩, ?_, ?_, fits, free⟩
  · rw [Bool.eq_false_iff, Ne, List.contains_iff_mem] at zeroless ⊢
    exact fun within => zeroless (fewer.subset within)
  · rw [← String.ofList_toList (s := path), String.utf8ByteSize_ofList] at short
    rw [← String.ofList_toList (s := Location.statePath path), String.utf8ByteSize_ofList]
    exact Nat.lt_of_le_of_lt (String.utf8Len_le_of_sublist fewer) short
  · rw [startOf_eq named.statePath, ← startOf_eq named, walk_trimEnd]
    exact entered
  · rw [same]
    exact isName

/-- Saving a state leaves the image as it was, unless the image has the extension of saved
states. -/
theorem read_write_statePath (named : Named path root folders name) {program : List UInt8}
    (reads : directory.read path = .ok program) (other : ¬ HasStateExtension name)
    (saved : List UInt8) :
    (directory.write (Location.statePath path) saved).2.read path = .ok program := by
  obtain ⟨folder, text, image, -⟩ := read_eq_ok_iff.mp reads
  unfold write
  rcases outcome : directory.positionToWrite (Location.statePath path) with fault | target
  · exact reads
  obtain ⟨place, written, state, rfl⟩ := positionToWrite_eq_ok_iff.mp outcome
  obtain ⟨rfl, rfl⟩ := admits_statePath named image state
  obtain ⟨-, -, rfl, -⟩ := (admits_iff named).mp image
  refine (image.read_put_iff _ saved).mpr ?_
  rw [if_neg]
  · exact reads
  · intro same
    exact other ((stateName_eq_iff named.text).mp (String.ofList_injective same).symm)

/-- An image with the extension of saved states is replaced. -/
theorem write_statePath_of_extension (named : Named path root folders name)
    {program : List UInt8} (reads : directory.read path = .ok program)
    (own : HasStateExtension name) (saved : List UInt8) :
    ∃ after, directory.write (Location.statePath path) saved = (.ok (), after) ∧
      after.read path = .ok saved := by
  obtain ⟨folder, text, image, -⟩ := read_eq_ok_iff.mp reads
  have state := image.statePath named ((stateName_eq_iff named.text).mpr own)
  refine ⟨directory.put (folder ++ [text]) saved, ?_, ?_⟩
  · unfold write
    rw [positionToWrite_eq_ok_iff.mpr ⟨folder, text, state, rfl⟩]
  · refine (image.read_put_iff text saved).mpr ?_
    rw [if_pos rfl]

end Directory

/-! ## Sessions -/

namespace Session

open CommandLine

variable {α β : Type}

/-- A part of a session that keeps its files in a directory. -/
abbrev Part := StateM Directory

theorem bind_apply (part : Part α) (next : α → Part β) (directory : Directory) :
    (part >>= next) directory = next (part directory).1 (part directory).2 := rfl

/-- A part of a session that leaves the files as they are. -/
def Reads (part : Part α) : Prop :=
  ∀ directory : Directory, (part directory).2 = directory

theorem Reads.loadFrom [Compressor] (device : Device) (path : String) :
    Reads (device.loadFrom path : Part (Except Failure Device)) := by
  intro directory
  rw [Device.loadFrom_eq]
  rfl

/-- Loading leaves the files alone. -/
theorem Reads.begin? [Compressor] (options : Options) (device : Device) :
    Reads (begin? options device : Part (Except Failure Device)) := by
  unfold Session.begin?
  rcases options.loadState with _ | path
  · exact fun _ => rfl
  · exact .loadFrom device path

theorem writeFile_apply (path : String) (bytes : List UInt8) (directory : Directory) :
    (Storage.writeFile path bytes : Part (Except FileFault Unit)) directory =
      directory.write path bytes := rfl

theorem readFile_apply (path : String) (directory : Directory) :
    (Storage.readFile path : Part (Except FileFault (List UInt8))) directory =
      (directory.read path, directory) := rfl

theorem saveTo_apply [Compressor] (device : Device) (path : String) (directory : Directory) :
    ((device.saveTo path : Part (Except Failure Unit)) directory).2 =
      (directory.write path (device.snapshot.encode device.variant)).2 := by
  unfold Device.saveTo
  rw [bind_apply, writeFile_apply]
  rcases directory.write path (device.snapshot.encode device.variant) with ⟨outcome, after⟩
  cases outcome with
  | error fault => rfl
  | ok done => rfl

theorem finish_apply [Compressor] (options : Options) (device : Device) (directory : Directory) :
    ((finish options device : Part (Except Failure (List LogLine))) directory).2 =
      if options.saveState then
        (directory.write (statePath options.image) (device.snapshot.encode device.variant)).2
      else directory := by
  unfold finish
  by_cases saves : options.saveState = true
  · rw [if_pos saves, if_pos saves, ← saveTo_apply, bind_apply]
    rcases (device.saveTo (statePath options.image) : Part (Except Failure Unit)) directory with
      ⟨outcome, after⟩
    cases outcome with
    | error failure => rfl
    | ok done => rfl
  · rw [if_neg saves, if_neg saves]
    rfl

/-- A session changes the files by saving at its end and not otherwise. -/
theorem run_directory [Compressor] (options : Options) (directory : Directory) :
    ((run options : Part Transcript) directory).2 = directory ∨
      ∃ device : Device, ((run options : Part Transcript) directory).2 =
        ((finish options device : Part (Except Failure (List LogLine))) directory).2 := by
  unfold run
  rw [bind_apply, readFile_apply]
  rcases directory.read options.image with fault | image
  · exact .inl rfl
  dsimp only
  rcases (Device.new options.variant options.clock).loadImage options.offset image.toArray with
    failure | device
  · exact .inl rfl
  dsimp only
  have kept := Reads.begin? options (Device.start { device with bench := listeningBench }).2 directory
  rw [bind_apply]
  generalize (begin? options (Device.start { device with bench := listeningBench }).2 :
    Part (Except Failure Device)) directory = begun at kept ⊢
  obtain ⟨outcome, after⟩ := begun
  obtain rfl : after = directory := kept
  rcases outcome with failure | ready
  · exact .inl rfl
  dsimp only
  rcases runAndShow options (setMarks options ready) with ⟨output, ended⟩
  refine .inr ⟨ended, ?_⟩
  dsimp only
  rw [bind_apply]
  rcases (finish options ended : Part (Except Failure (List LogLine))) after with ⟨outcome, saved⟩
  cases outcome with
  | error failure => rfl
  | ok lines => rfl

/-- Take an image that a session can read, and the last name of its path. Unless that name has the
extension of saved states, the state is saved under another path, and the session leaves the image as
it was. If it has, every session that comes to save a state puts the state in the place of the
image. -/
theorem image_kept_unless_extension [Compressor] (options : Options) {directory : Directory}
    {program : List UInt8} (reads : directory.read options.image = .ok program) :
    ∃ name, (place options.image).leaf = some name ∧
      (¬ HasStateExtension name →
        statePath options.image ≠ options.image ∧
        ((run options : Part Transcript) directory).2.read options.image = .ok program) ∧
      (HasStateExtension name → options.saveState = true → ∀ device : Device,
        ((finish options device : Part (Except Failure (List LogLine))) directory).2.read
          options.image = .ok (device.snapshot.encode device.variant)) := by
  obtain ⟨folder, text, image, -⟩ := Directory.read_eq_ok_iff.mp reads
  obtain ⟨root, folders, name, named⟩ := image.exists_named
  refine ⟨name, congrArg Place.leaf named.place_eq, fun other => ⟨?_, ?_⟩,
    fun own saves device => ?_⟩
  · exact fun same => other (named.hasStateExtension_of_statePath_eq same)
  · rcases run_directory options directory with same | ⟨device, same⟩
    · rw [same]
      exact reads
    · rw [same, finish_apply]
      by_cases saves : options.saveState = true
      · rw [if_pos saves]
        exact Directory.read_write_statePath named reads other _
      · rw [if_neg saves]
        exact reads
  · obtain ⟨after, written, replaced⟩ := Directory.write_statePath_of_extension named reads own
      (device.snapshot.encode device.variant)
    rw [finish_apply, if_pos saves, written]
    exact replaced

/-- A session that saves the state in the end, with nothing else asked for. -/
def saving (image : String) : Options :=
  ⟨image, .c4, 0, 4000000, 0, [], [], none, true, false⟩

/-- An image under another extension is there after its session. -/
theorem image_kept_unless_extension_of_binary :
    let directory : Directory := ⟨[(["roms", "prog.bin"], [0x9D])]⟩
    directory.read "roms/prog.bin" = .ok [0x9D] ∧
      ((run (saving "roms/prog.bin") : Part Transcript) directory).2.read "roms/prog.bin" =
        .ok [0x9D] := by
  intro directory
  have reads : directory.read (saving "roms/prog.bin").image = .ok [0x9D] := rfl
  obtain ⟨name, leaf, kept, -⟩ := image_kept_unless_extension (saving "roms/prog.bin") reads
  obtain rfl : "prog.bin".toList = name := Option.some.inj leaf
  refine ⟨reads, (kept fun extension => ?_).2⟩
  have same := (stateName_eq_iff (by decide)).mpr extension
  exact absurd same (by decide)

/-- An image under the extension of saved states is another file after its session: the state path is
the path of the image. -/
theorem image_lost_under_extension :
    let directory : Directory := ⟨[(["prog.state"], [0x9D])]⟩
    let device := Device.new .c4 4000000
    directory.read "prog.state" = .ok [0x9D] ∧
      statePath "prog.state" = "prog.state" ∧
      ((finish (saving "prog.state") device : Part (Except Failure (List LogLine)))
        directory).2.read "prog.state" = .ok (device.snapshot.encode .c4) := by
  intro directory device
  have reads : directory.read "prog.state" = .ok [0x9D] := rfl
  have named : Named "prog.state" [] [] "prog.state".toList :=
    ⟨.relative (by decide) (by decide), by decide, by decide, by decide⟩
  have own : HasStateExtension "prog.state".toList := ⟨"prog".toList, by decide, by decide⟩
  obtain ⟨after, written, replaced⟩ := Directory.write_statePath_of_extension named reads own
    (device.snapshot.encode .c4)
  have saves : (saving "prog.state").saveState = true := rfl
  refine ⟨reads, by decide, ?_⟩
  rw [finish_apply, if_pos saves]
  change (directory.write (statePath "prog.state") (device.snapshot.encode .c4)).2.read _ = _
  rw [written]
  exact replaced

end Session
end M68HC05
