import M68HC05.Trace

/-!
Watchpoints. The device reports each program access to a watch list, which counts the access at
every watchpoint that it triggers and keeps the first hit until the host takes it.
-/

namespace M68HC05

structure Watchpoint where
  address : UInt16
  kind : WatchKind
  /-- only an access that transfers this byte triggers -/
  byte : Option UInt8
  enabled : Bool
  /-- accesses that have triggered it, of which a word of 64 bits holds the first 2 ^ 64 -/
  hits : Nat
  deriving DecidableEq

/-- An access triggers a watchpoint. -/
def Watchpoint.triggers (point : Watchpoint) (address : UInt16) (made : WatchKind)
    (byte : UInt8) : Bool :=
  point.enabled && point.address = address && point.kind.covers made
    && point.byte.all (· = byte)

/-- Counts an access if it triggers the watchpoint. -/
def Watchpoint.count (point : Watchpoint) (address : UInt16) (made : WatchKind) (byte : UInt8) :
    Watchpoint :=
  if point.triggers address made byte then { point with hits := point.hits + 1 } else point

/-- An access that triggered a watchpoint. -/
structure WatchHit where
  /-- position of the watchpoint in the list when it triggered -/
  index : Nat
  address : UInt16
  made : WatchKind
  byte : UInt8
  /-- the stored byte before a write -/
  previous : Option UInt8
  deriving DecidableEq

structure WatchList where
  points : List Watchpoint
  /-- the first hit since one was last taken -/
  hit : Option WatchHit
  deriving DecidableEq

namespace WatchList

def empty : WatchList := ⟨[], none⟩

/-- Adds an enabled watchpoint at the end and answers its position. -/
def add (list : WatchList) (address : UInt16) (kind : WatchKind) : Nat × WatchList :=
  (list.points.length,
    { list with points := list.points ++ [⟨busAddress address, kind, none, true, 0⟩] })

/-- Adds a watchpoint for writes of one byte at the end and answers its position. -/
def addByte (list : WatchList) (address : UInt16) (byte : UInt8) : Nat × WatchList :=
  (list.points.length,
    { list with points := list.points ++ [⟨busAddress address, .write, some byte, true, 0⟩] })

/-- Removes a watchpoint; those after it move up. -/
def remove (list : WatchList) (index : Nat) : Option Watchpoint × WatchList :=
  (list.points[index]?, { list with points := list.points.eraseIdx index })

/-- Switches a watchpoint on or off. -/
def setEnabled (list : WatchList) (index : Nat) (enabled : Bool) : WatchList :=
  { list with points := list.points.modify index ({ · with enabled }) }

/-- A hit waits to be taken. -/
def hasHit (list : WatchList) : Bool :=
  list.hit.isSome

/-- Takes the waiting hit. -/
def takeHit (list : WatchList) : Option WatchHit × WatchList :=
  (list.hit, { list with hit := none })

/-- The hit of an access: at the first watchpoint that it triggers. -/
def firstHit? (list : WatchList) (address : UInt16) (made : WatchKind) (byte : UInt8)
    (previous : Option UInt8) : Option WatchHit :=
  (list.points.findIdx? (·.triggers address made byte)).map (⟨·, address, made, byte, previous⟩)

/-- Takes note of an access. -/
def observe (list : WatchList) (address : UInt16) (made : WatchKind) (byte : UInt8)
    (previous : Option UInt8) : Outcome WatchList Unit :=
  let fresh := if list.hasHit then none else list.firstHit? address made byte previous
  { value := ()
    next :=
      { points := list.points.map (·.count address made byte)
        hit := list.hit <|> fresh }
    report := match fresh with
      | some hit => [.remark (.watchHit hit.index address made)]
      | none => [] }

end WatchList
end M68HC05
