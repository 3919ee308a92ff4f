/-!
Little-endian numbers. `LittleEndian.toNat` reads the bytes of a number, least significant first,
and `LittleEndian.ofNat` writes as many bytes as asked for. Reading undoes writing up to the
width (`toNat_ofNat`), and writing undoes reading (`ofNat_toNat`).
-/
set_option autoImplicit false

namespace AviPlayback.LittleEndian

/-- The number with the given bytes, least significant first. -/
def toNat : List UInt8 → Nat
  | [] => 0
  | b :: rest => b.toNat + 256 * toNat rest

/-- The lowest `width` bytes of a number, least significant first. -/
def ofNat : Nat → Nat → List UInt8
  | 0, _ => []
  | width + 1, n => UInt8.ofNat (n % 256) :: ofNat width (n / 256)

@[simp] theorem length_ofNat (width n : Nat) : (ofNat width n).length = width := by
  induction width generalizing n with
  | zero => rfl
  | succ width ih => simp [ofNat, ih]

theorem toNat_ofNat (width n : Nat) : toNat (ofNat width n) = n % Nat.pow 256 width := by
  induction width generalizing n with
  | zero => simp [toNat, ofNat, Nat.mod_one]
  | succ width ih =>
    have h : (UInt8.ofNat (n % 256)).toNat = n % 256 := by
      simp [UInt8.toNat_ofNat']
    rw [ofNat, toNat, h, ih, Nat.pow_eq, Nat.pow_eq, Nat.pow_succ, Nat.mul_comm (256 ^ width) 256,
      Nat.mod_mul]

theorem toNat_lt (bytes : List UInt8) : toNat bytes < Nat.pow 256 bytes.length := by
  induction bytes with
  | nil => simp [toNat]
  | cons b rest ih =>
    have hb : b.toNat < 256 := b.toNat_lt
    rw [Nat.pow_eq] at ih ⊢
    rw [toNat, List.length_cons, Nat.pow_succ]
    omega

theorem ofNat_toNat (bytes : List UInt8) : ofNat bytes.length (toNat bytes) = bytes := by
  induction bytes with
  | nil => rfl
  | cons b rest ih =>
    have hb : b.toNat < 256 := b.toNat_lt
    have hmod : (b.toNat + 256 * toNat rest) % 256 = b.toNat := by omega
    have hdiv : (b.toNat + 256 * toNat rest) / 256 = toNat rest := by omega
    simp [toNat, ofNat, hmod, hdiv, ih]

def ofUInt32 (w : UInt32) : List UInt8 := ofNat 4 w.toNat

def ofUInt16 (w : UInt16) : List UInt8 := ofNat 2 w.toNat

def uint32At (bytes : List UInt8) (i : Nat) : UInt32 :=
  UInt32.ofNat (toNat ((bytes.drop i).take 4))

def uint16At (bytes : List UInt8) (i : Nat) : UInt16 :=
  UInt16.ofNat (toNat ((bytes.drop i).take 2))

def int32At (bytes : List UInt8) (i : Nat) : Int32 :=
  (uint32At bytes i).toInt32

@[simp] theorem length_ofUInt32 (w : UInt32) : (ofUInt32 w).length = 4 := length_ofNat 4 _

@[simp] theorem length_ofUInt16 (w : UInt16) : (ofUInt16 w).length = 2 := length_ofNat 2 _

theorem uint32At_append (front rest : List UInt8) (w : UInt32) :
    uint32At (front ++ (ofUInt32 w ++ rest)) front.length = w := by
  have h : toNat (ofUInt32 w) = w.toNat := by
    rw [ofUInt32, toNat_ofNat]
    exact Nat.mod_eq_of_lt w.toNat_lt
  simp [uint32At, h]

theorem uint16At_append (front rest : List UInt8) (w : UInt16) :
    uint16At (front ++ (ofUInt16 w ++ rest)) front.length = w := by
  have h : toNat (ofUInt16 w) = w.toNat := by
    rw [ofUInt16, toNat_ofNat]
    exact Nat.mod_eq_of_lt w.toNat_lt
  simp [uint16At, h]

end AviPlayback.LittleEndian
