import Mathlib.Data.List.Basic

namespace Chassis.Flash

/-- The erased bytes between the end of a file and the end of its last erase block. -/
def padding (eraseSize : Nat) (content : List UInt8) : List UInt8 :=
  List.replicate ((eraseSize - content.length % eraseSize) % eraseSize) 0xFF

/-- What lies behind a file after it has been copied: the padding and the blocks that were not
touched. -/
def behind (eraseSize : Nat) (content device : List UInt8) : List UInt8 :=
  padding eraseSize content ++ device.drop (content.length + (padding eraseSize content).length)

/-- The tool erases the blocks that a file needs and copies the file to the start of the device. -/
def flashcp (eraseSize : Nat) (content device : List UInt8) : List UInt8 :=
  content ++ behind eraseSize content device

end Chassis.Flash
