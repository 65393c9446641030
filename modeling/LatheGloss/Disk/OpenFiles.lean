import LatheGloss.Disk.Basic

/-! Files that are open can be read by their numbers. What they give is not the disk's affair: it
may come from a terminal or from another program.
-/

namespace LatheGloss

/-- What reading an open file by its number comes to: its bytes up to the end, or the reason why it
cannot be read. A number without a file stands for none. -/
abbrev OpenFiles := Nat → Option (Except Text (List UInt8))

namespace OpenFiles

/-- Numbers of open files are below this one. -/
def numberLimit : Int := 0x80000000

/-- The text of an open file. -/
def readText (files : OpenFiles) (number : Nat) : Except FileFault Text :=
  match files number with
  | none => .error (.disk (.refused .badDescriptor none))
  | some (.error reason) => .error (.openFile reason)
  | some (.ok bytes) => Disk.textOf bytes

end OpenFiles

end LatheGloss
