import AviPlayback.Output.Ppm
import AviPlayback.Storage.FileTree

/-!
A surface that writes pictures to files. Pictures are numbered from one as they are shown; the
first of every `every` of them is written, under its number.
-/
set_option autoImplicit false

namespace AviPlayback

/-- A surface that writes pictures to a directory. -/
structure PpmDump where
  codec : PpmCodec
  dir : String
  every : Nat
  every_pos : 0 < every
  /-- Number of pictures shown. -/
  presented : Nat
  /-- Number of pictures written. -/
  written : Nat

namespace PpmDump

/-- Makes sure of the directory. An `every` of zero acts as one. -/
def create (dir : String) (every : Nat) (t : FileTree) (codec : PpmCodec := .binary) :
    Except PlayerFault PpmDump × FileTree :=
  match t.ensureDirectory dir with
  | (.ok _, t) => (.ok ⟨codec, dir, max every 1, by omega, 0, 0⟩, t)
  | (.error fault, t) => (.error (.file fault), t)

/-- A number with at least six digits. -/
def sixDigits (n : Nat) : String :=
  let digits := Nat.toDigits 10 n
  String.ofList (List.replicate (6 - digits.length) '0' ++ digits)

def framePath (d : PpmDump) (n : Nat) : String :=
  Path.join d.dir ("frame-" ++ sixDigits n ++ ".ppm")

def takes (d : PpmDump) (n : Nat) : Bool := (n - 1) % d.every == 0

/-- Shows a picture. It is counted even if its file cannot be written, and a file that was begun
stays. -/
def present (d : PpmDump) (t : FileTree) (picture : PixelBuffer) :
    Except PlayerFault Unit × PpmDump × FileTree :=
  let d := { d with presented := d.presented + 1 }
  if d.takes d.presented then
    let (result, bytes) := d.codec.write picture
    match t.write (d.framePath d.presented) bytes with
    | .ok t =>
      match result with
      | .ok _ => (.ok (), { d with written := d.written + 1 }, t)
      | .error fault => (.error fault, d, t)
    | .error fault => (.error (.file fault), d, t)
  else (.ok (), d, t)

end PpmDump

end AviPlayback
