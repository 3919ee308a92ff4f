/-!
Files held in memory. `readAt` gives a run of bytes only when the file holds the whole run.
-/
set_option autoImplicit false

namespace AviPlayback

abbrev Bytes := Array UInt8

/-- The `count` bytes at `pos`, when the file holds all of them. -/
def readAt (file : Bytes) (pos count : Nat) : Option (List UInt8) :=
  let run := (file.extract pos (pos + count)).toList
  if run.length = count then some run else none

theorem readAt_eq (file : Bytes) (pos count : Nat) :
    readAt file pos count =
      if ((file.toList.drop pos).take count).length = count then
        some ((file.toList.drop pos).take count) else none := by
  simp [readAt, List.extract_eq_take_drop]

theorem length_of_readAt {file : Bytes} {pos count : Nat} {run : List UInt8}
    (h : readAt file pos count = some run) : run.length = count := by
  unfold readAt at h
  dsimp only at h
  split at h
  · next heq => cases h; exact heq
  · cases h

end AviPlayback
