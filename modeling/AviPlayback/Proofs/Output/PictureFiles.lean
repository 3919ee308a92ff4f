import AviPlayback.Output.PpmDump
import AviPlayback.Proofs.Frame.WholeFrames
import AviPlayback.Proofs.Storage.Places
import Mathlib.Data.List.Basic
import Mathlib.Data.List.Induction

/-!
The files of a surface that writes pictures, with any codec that does what `PpmCodec.IsLawful` asks
of it. The surface goes on as long as no file operation fails (`PpmDump.noFault_iff`). Then the
files of the pictures shown are those of every `every`-th of them from the first on, each under its
own number and with the size and the colors of that picture, and no other file is written
(`PpmDump.run_files`).
-/
set_option autoImplicit false

namespace AviPlayback

/-! ### Pictures as files -/

/-- What is asked of a codec: it takes every picture with all its bytes, keeps the red, green and
blue byte of each pixel, and writes the samples of every image that is not empty, without a fault
and behind the header of a binary PPM file of its size. -/
structure PpmCodec.IsLawful (c : PpmCodec) : Prop where
  accepts : ∀ width height bytes, bytes.size = 4 * (width * height) →
    c.accepts width height bytes = true
  size_dropAlpha : ∀ width height bytes, bytes.size = 4 * (width * height) →
    (c.dropAlpha width height bytes).size = 3 * (width * height)
  getElem?_dropAlpha : ∀ width height bytes, bytes.size = 4 * (width * height) →
    ∀ i < width * height, ∀ k < 3,
      (c.dropAlpha width height bytes)[3 * i + k]? = bytes[4 * i + k]?
  encode : ∀ width height samples, 0 < width → 0 < height →
    samples.size = 3 * (width * height) →
      c.encode width height samples =
        (.ok (), s!"P6\n{width} {height} 255\n".toUTF8.data ++ samples)

theorem PpmCodec.isLawful_binary : PpmCodec.binary.IsLawful where
  accepts width height bytes hsize := by simp [binary, hsize]
  size_dropAlpha width height bytes hsize := by simp [binary]
  getElem?_dropAlpha width height bytes hsize i hi k hk := by
    have hplace : (3 * i + k) / 3 * 4 + k % 3 = 4 * i + k := by omega
    have hsample : 3 * i + k < 3 * (width * height) := by omega
    have hbyte : 4 * i + k < bytes.size := by omega
    simp [binary, hplace, hsample, hbyte]
  encode width height samples hwidth hheight hsize := rfl

/-- A binary PPM file of a picture: its width and height are in the header, and then come the red,
green and blue bytes of every pixel in row order. -/
def IsPpmOf (file : Bytes) (b : PixelBuffer) : Prop :=
  ∃ samples : Bytes,
    file = ("P6\n" ++ toString b.width ++ " " ++ toString b.height ++ " 255\n").toUTF8.data ++
      samples ∧
    samples.size = 3 * (b.width * b.height) ∧
    ∀ x < b.width, ∀ y < b.height, ∃ red green blue alpha,
      b.pixel? x y = some [red, green, blue, alpha] ∧
        ∀ k < 3, samples[3 * (y * b.width + x) + k]? = [red, green, blue][k]?

namespace PixelBuffer

variable {b : PixelBuffer} {x y : Nat}

theorem place_lt (hx : x < b.width) (hy : y < b.height) :
    y * b.width + x < b.width * b.height := by
  have hrows : (y + 1) * b.width ≤ b.height * b.width := Nat.mul_le_mul_right _ hy
  rw [Nat.succ_mul] at hrows
  rw [Nat.mul_comm b.width]
  omega

/-- A pixel stands behind those before it in row order. -/
theorem pixel?_eq_bytes (hx : x < b.width) (hy : y < b.height) :
    b.pixel? x y = some ((b.bytes.toList.drop (4 * (y * b.width + x))).take 4) := by
  have hrow : b.row? y = some (b.row y) := row?_of_lt hy
  rw [row?_eq_readAt, readAt_eq] at hrow
  split at hrow
  · rw [pixel?_of_lt hx hy, pixelAt, ← Option.some.inj hrow, stride, List.drop_take,
      List.drop_drop, List.take_take]
    have hplace : y * (4 * b.width) + 4 * x = 4 * (y * b.width + x) := by
      rw [Nat.mul_left_comm, Nat.mul_add]
    have hroom : min 4 (4 * b.width - 4 * x) = 4 := by omega
    rw [hplace, hroom]
  · cases hrow

theorem size_bytes_eq (b : PixelBuffer) : b.bytes.size = 4 * (b.width * b.height) := by
  rw [size_bytes, size, stride, Nat.mul_left_comm, Nat.mul_comm b.width]

theorem exists_pixel? (hx : x < b.width) (hy : y < b.height) : ∃ red green blue alpha,
    b.pixel? x y = some [red, green, blue, alpha] ∧
      ∀ k < 3, b.bytes[4 * (y * b.width + x) + k]? = [red, green, blue][k]? := by
  have hplace := place_lt hx hy
  have hsize := b.size_bytes_eq
  have hlength : ((b.bytes.toList.drop (4 * (y * b.width + x))).take 4).length = 4 := by
    rw [List.length_take, List.length_drop, Array.length_toList]
    omega
  obtain ⟨red, green, blue, alpha, hfour⟩ := List.length_eq_four.mp hlength
  refine ⟨red, green, blue, alpha, (pixel?_eq_bytes hx hy).trans (congrArg some hfour), ?_⟩
  intro k hk
  calc b.bytes[4 * (y * b.width + x) + k]?
    _ = ((b.bytes.toList.drop (4 * (y * b.width + x))).take 4)[k]? := by
      rw [List.getElem?_take_of_lt (by omega), List.getElem?_drop, Array.getElem?_toList]
    _ = ([red, green, blue, alpha].take 3)[k]? := by
      rw [hfour, List.getElem?_take_of_lt hk]
    _ = [red, green, blue][k]? := rfl

end PixelBuffer

namespace IsPpmOf

variable {codec : PpmCodec} {file file' : Bytes} {b : PixelBuffer}

/-- The file of a picture holds it. -/
theorem toPpm (hcodec : codec.IsLawful) (hwidth : 0 < b.width) (hheight : 0 < b.height) :
    codec.write b = (.ok (), b.toPpm codec) ∧ IsPpmOf (b.toPpm codec) b := by
  have hsize := b.size_bytes_eq
  have hcolors := hcodec.size_dropAlpha _ _ _ hsize
  have hwrite : codec.write b =
      (.ok (), ("P6\n" ++ toString b.width ++ " " ++ toString b.height ++ " 255\n").toUTF8.data ++
        codec.dropAlpha b.width b.height b.bytes) := by
    rw [PpmCodec.write, if_pos (hcodec.accepts _ _ _ hsize),
      hcodec.encode _ _ _ hwidth hheight hcolors]
    rfl
  rw [PixelBuffer.toPpm, hwrite]
  refine ⟨rfl, _, rfl, hcolors, ?_⟩
  intro x hx y hy
  obtain ⟨red, green, blue, alpha, hpixel, hbytes⟩ := PixelBuffer.exists_pixel? hx hy
  refine ⟨red, green, blue, alpha, hpixel, ?_⟩
  intro k hk
  rw [hcodec.getElem?_dropAlpha _ _ _ hsize _ (PixelBuffer.place_lt hx hy) k hk, hbytes k hk]

/-- A picture has one file only. -/
theorem unique (h : IsPpmOf file b) (h' : IsPpmOf file' b) : file = file' := by
  obtain ⟨samples, rfl, hsize, hpixels⟩ := h
  obtain ⟨samples', rfl, hsize', hpixels'⟩ := h'
  congr 1
  apply Array.ext_getElem?
  intro i
  by_cases hi : i < 3 * (b.width * b.height)
  · have hplace : i / 3 < b.width * b.height := by omega
    have hwidth : 0 < b.width := Nat.pos_of_lt_mul_right hplace
    have hx : i / 3 % b.width < b.width := Nat.mod_lt _ hwidth
    have hy : i / 3 / b.width < b.height := Nat.div_lt_of_lt_mul hplace
    have hsample : i = 3 * (i / 3 / b.width * b.width + i / 3 % b.width) + i % 3 := by
      rw [Nat.div_add_mod', Nat.div_add_mod]
    obtain ⟨red, green, blue, alpha, hpixel, hcolors⟩ := hpixels _ hx _ hy
    obtain ⟨red', green', blue', alpha', hpixel', hcolors'⟩ := hpixels' _ hx _ hy
    cases hpixel.symm.trans hpixel'
    rw [hsample, hcolors _ (Nat.mod_lt _ (by decide)), hcolors' _ (Nat.mod_lt _ (by decide))]
  · rw [Array.getElem?_eq_none (by omega), Array.getElem?_eq_none (by omega)]

end IsPpmOf

theorem isPpmOf_iff {codec : PpmCodec} {file : Bytes} {b : PixelBuffer} (hcodec : codec.IsLawful)
    (hwidth : 0 < b.width) (hheight : 0 < b.height) : IsPpmOf file b ↔ file = b.toPpm codec := by
  have hfile := (IsPpmOf.toPpm hcodec hwidth hheight).2
  constructor
  · exact fun h => h.unique hfile
  · rintro rfl
    exact hfile

/-! ### Names of files -/

def frameName (n : Nat) : String := "frame-" ++ PpmDump.sixDigits n ++ ".ppm"

/-- Zeros in front of a number do not change it. -/
theorem sixDigits_injective : Function.Injective PpmDump.sixDigits := by
  intro i j h
  have hvalue (n : Nat) : Nat.ofDigitChars 10 (PpmDump.sixDigits n).toList 0 = n := by
    rw [PpmDump.sixDigits, String.toList_ofList, Nat.ofDigitChars_append,
      Nat.ofDigitChars_replicate_zero, Nat.mul_zero, Nat.ofDigitChars_ten_toDigits]
  rw [← hvalue i, h, hvalue]

/-- Different pictures have different names, also past six digits. -/
theorem frameName_injective : Function.Injective frameName := by
  intro i j h
  have hlist := congrArg String.toList h
  simp only [frameName, String.toList_append] at hlist
  have hdigits := List.append_cancel_left (List.append_cancel_right hlist)
  exact sixDigits_injective (String.toList_injective hdigits)

example : frameName 1234567 = "frame-1234567.ppm" := by decide +kernel

theorem slash_notMem_frameName (n : Nat) : '/' ∉ (frameName n).toList := by
  simp only [frameName, String.toList_append, PpmDump.sixDigits, String.toList_ofList,
    List.mem_append, not_or]
  refine ⟨⟨by decide, ?_, ?_⟩, by decide⟩
  · intro h
    exact absurd (List.eq_of_mem_replicate h) (by decide)
  · intro h
    exact absurd (Nat.isDigit_of_mem_toDigits (by decide) (by decide) h) (by decide)

theorem frameName_ne (n : Nat) {name : String} (h : name.toList.head? ≠ some 'f') :
    frameName n ≠ name := by
  rintro rfl
  exact h (by simp [frameName])

namespace PpmDump

/-! ### Pictures shown -/

/-- Shows pictures one after another, up to the first that cannot be written. -/
def presentAll (d : PpmDump) (t : FileTree) :
    List PixelBuffer → Except PlayerFault (PpmDump × FileTree)
  | [] => .ok (d, t)
  | picture :: pictures =>
    match d.present t picture with
    | (.ok _, d, t) => d.presentAll t pictures
    | (.error fault, _, _) => .error fault

/-- A new surface and the pictures shown on it, as long as nothing fails. -/
def run (codec : PpmCodec) (dir : String) (every : Nat) (t : FileTree)
    (pictures : List PixelBuffer) : Except PlayerFault (PpmDump × FileTree) :=
  match create dir every t codec with
  | (.ok d, t) => d.presentAll t pictures
  | (.error fault, _) => .error fault

/-- No file operation fails: the directory can be made, and the file of each picture that is to be
written can be when its turn has come. -/
def NoFault (codec : PpmCodec) (dir : String) (every : Nat) (before : FileTree)
    (pictures : List PixelBuffer) : Prop :=
  (∃ opened, before.ensureDirectory dir = (.ok (), opened)) ∧
    ∀ front picture rest d t, pictures = front ++ picture :: rest →
      run codec dir every before front = .ok (d, t) → front.length % max every 1 = 0 →
        ∃ t', t.write (Path.join dir (frameName (front.length + 1))) (picture.toPpm codec) = .ok t'

/-- The numbers of the pictures that are written, of as many as are shown. An `every` of zero acts
as one. -/
def writtenNumbers (every count : Nat) : List Nat :=
  (List.range' 1 count).filter fun i => (i - 1) % max every 1 == 0

/-- The files of the pictures that are to be written, at their places. -/
def pictureFiles (d : PpmDump) (t : FileTree) (pictures : List PixelBuffer) : List (Place × Node) :=
  ((pictures.zipIdx (d.presented + 1)).filter fun p => d.takes p.2).map fun p =>
    (t.target d.dir ++ [frameName p.2], .file (p.1.toPpm d.codec))

section

variable {d d' : PpmDump} {t t' : FileTree} {picture : PixelBuffer} {pictures : List PixelBuffer}

/-- The file of a picture stands in the directory. -/
theorem target_framePath (d : PpmDump) (t : FileTree) (n : Nat) :
    t.target (d.framePath n) = t.target d.dir ++ [frameName n] :=
  FileTree.target_join (slash_notMem_frameName n) (frameName_ne n (by decide))
    (frameName_ne n (by decide)) (frameName_ne n (by decide))

/-- A picture that is shown without a fault is written when its number is one of those to be
written. -/
theorem present_eq_ok (h : d.present t picture = (.ok (), d', t')) :
    d'.codec = d.codec ∧ d'.dir = d.dir ∧ d'.every = d.every ∧ d'.presented = d.presented + 1 ∧
      d'.written = d.written + (d.pictureFiles t [picture]).length ∧
      t' = t.putAll (d.pictureFiles t [picture]) := by
  unfold present at h
  dsimp only at h
  split at h
  · next htakes =>
    have hfiles : d.pictureFiles t [picture] =
        [(t.target d.dir ++ [frameName (d.presented + 1)], .file (picture.toPpm d.codec))] := by
      have htaken : d.takes (d.presented + 1) = true := htakes
      simp [pictureFiles, htaken]
    rw [hfiles]
    split at h
    · next hwritten =>
      split at h
      · cases h
        refine ⟨rfl, rfl, rfl, rfl, rfl, ?_⟩
        rw [FileTree.write_eq_ok hwritten, target_framePath]
        rfl
      · cases h
    · cases h
  · next hskips =>
    have hfiles : d.pictureFiles t [picture] = [] := by
      have hskipped : ¬ d.takes (d.presented + 1) = true := hskips
      simp [pictureFiles, hskipped]
    rw [hfiles]
    cases h
    exact ⟨rfl, rfl, rfl, rfl, rfl, rfl⟩

/-- A picture is shown exactly when it need not be written or can be. -/
theorem fst_present_eq_ok_iff (hwrite : (d.codec.write picture).1 = .ok ()) :
    (d.present t picture).1 = .ok () ↔
      (d.takes (d.presented + 1) →
        ∃ t', t.write (d.framePath (d.presented + 1)) (picture.toPpm d.codec) = .ok t') := by
  unfold present
  dsimp only
  rw [hwrite]
  split
  · next htakes =>
    split
    · next t' hwritten => exact iff_of_true rfl fun _ => ⟨t', hwritten⟩
    · next fault hfault =>
      refine iff_of_false (by simp) fun hfile => ?_
      obtain ⟨t', hwritten⟩ := hfile htakes
      cases hfault.symm.trans hwritten
  · next hskips => exact iff_of_true rfl fun htakes => absurd htakes hskips

theorem fst_present_of_presentAll (h : d.presentAll t (picture :: pictures) = .ok (d', t')) :
    (d.present t picture).1 = .ok () := by
  rw [presentAll] at h
  split at h
  · next hpresent => rw [hpresent]
  · cases h

theorem exists_presentAll_singleton (h : (d.present t picture).1 = .ok ()) :
    ∃ s, d.presentAll t [picture] = .ok s := by
  rw [presentAll]
  split
  · exact ⟨_, rfl⟩
  · next hpresent =>
    rw [hpresent] at h
    cases h

/-- Pictures behind the first are written by the surface that has shown it. -/
theorem pictureFiles_cons (hcodec : d'.codec = d.codec) (hdir : d'.dir = d.dir)
    (hevery : d'.every = d.every) (hpresented : d'.presented = d.presented + 1)
    (hhome : t'.home = t.home) :
    d.pictureFiles t (picture :: pictures) =
      d.pictureFiles t [picture] ++ d'.pictureFiles t' pictures := by
  have htakes (n : Nat) : d'.takes n = d.takes n := by rw [takes, takes, hevery]
  simp only [pictureFiles, List.zipIdx_cons, List.zipIdx_nil, hpresented, htakes, hcodec, hdir,
    FileTree.target_congr hhome, ← List.map_append, ← List.filter_append, List.singleton_append]

/-- Pictures that are shown without a fault are counted, and those that are to be written are, each
under its own number. -/
theorem presentAll_eq_ok (h : d.presentAll t pictures = .ok (d', t')) :
    d'.codec = d.codec ∧ d'.dir = d.dir ∧ d'.every = d.every ∧
      d'.presented = d.presented + pictures.length ∧
      d'.written = d.written + (d.pictureFiles t pictures).length ∧
      t' = t.putAll (d.pictureFiles t pictures) := by
  induction pictures generalizing d t with
  | nil =>
    cases h
    exact ⟨rfl, rfl, rfl, rfl, rfl, rfl⟩
  | cons picture pictures ih =>
    rw [presentAll] at h
    split at h
    · next d₁ t₁ hpresent =>
      obtain ⟨hcodec, hdir, hevery, hpresented, hwritten, ht₁⟩ := present_eq_ok hpresent
      have hhome : t₁.home = t.home := by rw [ht₁, FileTree.home_putAll]
      obtain ⟨hcodec', hdir', hevery', hpresented', hwritten', ht'⟩ := ih h
      rw [pictureFiles_cons hcodec hdir hevery hpresented hhome]
      refine ⟨hcodec'.trans hcodec, hdir'.trans hdir, hevery'.trans hevery, ?_, ?_, ?_⟩
      · rw [hpresented', hpresented, List.length_cons, Nat.add_right_comm, Nat.add_assoc]
      · rw [hwritten', hwritten, List.length_append, Nat.add_assoc]
      · rw [ht', FileTree.putAll_append, ← ht₁]
    · cases h

theorem presentAll_append (d : PpmDump) (t : FileTree) (front rest : List PixelBuffer) :
    d.presentAll t (front ++ rest) = d.presentAll t front >>= fun s => s.1.presentAll s.2 rest := by
  induction front generalizing d t with
  | nil => rfl
  | cons picture front ih =>
    rw [List.cons_append, presentAll, presentAll]
    split
    · next d t _ => exact ih d t
    · rfl

theorem create_eq_ok {codec : PpmCodec} {dir : String} {every : Nat}
    (h : create dir every t codec = (.ok d, t')) :
    t.ensureDirectory dir = (.ok (), t') ∧ d.codec = codec ∧ d.dir = dir ∧
      d.every = max every 1 ∧ d.presented = 0 ∧ d.written = 0 := by
  unfold create at h
  split at h
  · next hmade =>
    cases h
    exact ⟨hmade, rfl, rfl, rfl, rfl, rfl⟩
  · cases h

theorem mem_writtenNumbers {every count i : Nat} :
    i ∈ writtenNumbers every count ↔ (1 ≤ i ∧ i ≤ count) ∧ (i - 1) % max every 1 = 0 := by
  rw [writtenNumbers, List.mem_filter, List.mem_range'_1, beq_iff_eq]
  omega

section

variable {every : Nat} (hevery : d.every = max every 1) (hpresented : d.presented = 0)

include hevery hpresented

/-- The places of a new surface's files are those of the numbers that are written. -/
theorem map_fst_pictureFiles : (d.pictureFiles t pictures).map (·.1) =
    (writtenNumbers every pictures.length).map fun i => t.target d.dir ++ [frameName i] := by
  have htakes : d.takes = fun i => (i - 1) % max every 1 == 0 := by
    funext i
    rw [takes, hevery]
  rw [pictureFiles, writtenNumbers, hpresented, List.map_map, ← List.zipIdx_map_snd 1 pictures,
    List.filter_map, List.map_map, htakes]
  rfl

/-- No file is put where another one has been put. -/
theorem nodup_pictureFiles : ((d.pictureFiles t pictures).map (·.1)).Nodup := by
  rw [map_fst_pictureFiles hevery hpresented]
  refine List.pairwise_map.mpr (((List.nodup_range' 1).filter _).imp ?_)
  intro i j hne heq
  exact hne (frameName_injective (List.singleton_inj.mp (List.append_cancel_left heq)))

theorem nil_notMem_pictureFiles : [] ∉ (d.pictureFiles t pictures).map (·.1) := by
  rw [map_fst_pictureFiles hevery hpresented]
  simp

/-- Each number that is written has the file of its picture. -/
theorem mem_pictureFiles_iff {place : Place} {node : Node} :
    (place, node) ∈ d.pictureFiles t pictures ↔
      ∃ i ∈ writtenNumbers every pictures.length, ∃ picture, pictures[i - 1]? = some picture ∧
        place = t.target d.dir ++ [frameName i] ∧ node = .file (picture.toPpm d.codec) := by
  simp only [pictureFiles, List.mem_map, List.mem_filter, List.mem_zipIdx_iff_le_and_getElem?_sub,
    hpresented, takes, hevery, mem_writtenNumbers, beq_iff_eq, Prod.mk.injEq]
  constructor
  · rintro ⟨⟨picture, i⟩, ⟨⟨hfirst, hpicture⟩, htaken⟩, rfl, rfl⟩
    obtain ⟨hlt, -⟩ := List.getElem?_eq_some_iff.mp hpicture
    exact ⟨i, ⟨⟨hfirst, by omega⟩, htaken⟩, picture, hpicture, rfl, rfl⟩
  · rintro ⟨i, ⟨⟨hfirst, -⟩, htaken⟩, picture, hpicture, rfl, rfl⟩
    exact ⟨(picture, i), ⟨⟨hfirst, hpicture⟩, htaken⟩, rfl, rfl⟩

end

end

section

variable {codec : PpmCodec} {dir : String} {every : Nat} {before after : FileTree} {d : PpmDump}
  {pictures rest : List PixelBuffer}

theorem run_eq_ok_iff : run codec dir every before pictures = .ok (d, after) ↔
    ∃ d₀ opened, create dir every before codec = (.ok d₀, opened) ∧
      d₀.presentAll opened pictures = .ok (d, after) := by
  unfold run
  constructor
  · intro h
    split at h
    · next d₀ opened hcreate => exact ⟨d₀, opened, hcreate, h⟩
    · cases h
  · rintro ⟨d₀, opened, hcreate, h⟩
    rw [hcreate]
    exact h

/-- Further pictures are shown on the surface that has shown the others. -/
theorem run_append (h : run codec dir every before pictures = .ok (d, after))
    (rest : List PixelBuffer) :
    run codec dir every before (pictures ++ rest) = d.presentAll after rest := by
  obtain ⟨d₀, opened, hcreate, h⟩ := run_eq_ok_iff.mp h
  rw [run, hcreate]
  dsimp only
  rw [presentAll_append, h, ok_bind]

/-- The next picture is shown exactly when it need not be written or can be. -/
theorem fst_present_of_run (h : run codec dir every before pictures = .ok (d, after))
    {picture : PixelBuffer} (hwrite : (codec.write picture).1 = .ok ()) :
    (d.present after picture).1 = .ok () ↔ (pictures.length % max every 1 = 0 →
      ∃ t, after.write (Path.join dir (frameName (pictures.length + 1)))
        (picture.toPpm codec) = .ok t) := by
  obtain ⟨d₀, opened, hcreate, hshown⟩ := run_eq_ok_iff.mp h
  obtain ⟨-, rfl, rfl, hevery₀, hpresented₀, -⟩ := create_eq_ok hcreate
  obtain ⟨hcodec, hdir, hevery, hpresented, -, -⟩ := presentAll_eq_ok hshown
  rw [hevery₀] at hevery
  rw [hpresented₀, Nat.zero_add] at hpresented
  have htakes : d.takes (d.presented + 1) ↔ pictures.length % max every 1 = 0 := by
    rw [takes, hevery, hpresented, Nat.add_sub_cancel, beq_iff_eq]
  rw [← hcodec] at hwrite ⊢
  rw [fst_present_eq_ok_iff hwrite, htakes, framePath, hdir, hpresented]
  rfl

/-- A new surface shows all pictures of positive size exactly when no file operation fails. -/
theorem noFault_iff (hcodec : codec.IsLawful)
    (hsize : ∀ picture ∈ pictures, 0 < picture.width ∧ 0 < picture.height) :
    NoFault codec dir every before pictures ↔
      ∃ d after, run codec dir every before pictures = .ok (d, after) := by
  have hencodes : ∀ picture ∈ pictures, (codec.write picture).1 = .ok () := by
    intro picture hpicture
    obtain ⟨hwidth, hheight⟩ := hsize picture hpicture
    rw [(IsPpmOf.toPpm hcodec hwidth hheight).1]
  clear hsize
  constructor
  · rintro ⟨⟨opened, hopened⟩, hwrites⟩
    induction pictures using List.reverseRecOn with
    | nil =>
      rw [run, create, hopened]
      exact ⟨_, _, rfl⟩
    | append_singleton pictures picture ih =>
      obtain ⟨d, t, hrun⟩ := ih
        (fun shown hshown => hencodes shown (List.mem_append_left _ hshown))
        fun front next rest d t hsplit =>
          hwrites front next (rest ++ [picture]) d t (by rw [hsplit, List.append_assoc]; rfl)
      have hwrite := hwrites pictures picture [] d t rfl hrun
      have hshown := (fst_present_of_run hrun (hencodes picture (by simp))).mpr hwrite
      obtain ⟨⟨d', after⟩, hall⟩ := exists_presentAll_singleton hshown
      exact ⟨d', after, (run_append hrun [picture]).trans hall⟩
  · rintro ⟨d, after, h⟩
    constructor
    · obtain ⟨_, opened, hcreate, -⟩ := run_eq_ok_iff.mp h
      exact ⟨opened, (create_eq_ok hcreate).1⟩
    · rintro front picture rest d₁ t₁ rfl hfront
      rw [run_append hfront] at h
      have hshown := fst_present_of_presentAll h
      exact (fst_present_of_run hfront (hencodes picture (by simp))).mp hshown

end

/-- With a codec that does what is asked of it, all pictures of positive size are shown while no
file operation fails. The files of a new surface are then those of every `every`-th picture from the
first on, in its directory and each under its own name. They hold the size and the colors of these
pictures, and they are counted; every other file is as it was before. -/
theorem run_files {codec : PpmCodec} {dir : String} {every : Nat} {before : FileTree}
    {pictures : List PixelBuffer} (hcodec : codec.IsLawful)
    (hsize : ∀ picture ∈ pictures, 0 < picture.width ∧ 0 < picture.height)
    (h : NoFault codec dir every before pictures) :
    ∃ d after, run codec dir every before pictures = .ok (d, after) ∧
      (∀ place bytes, after.node? place = some (.file bytes) ↔
        (∃ i ∈ writtenNumbers every pictures.length, ∃ picture, pictures[i - 1]? = some picture ∧
          place = before.target dir ++ [frameName i] ∧ IsPpmOf bytes picture) ∨
        (∀ i ∈ writtenNumbers every pictures.length, place ≠ before.target dir ++ [frameName i]) ∧
          before.node? place = some (.file bytes)) ∧
      Function.Injective frameName ∧
      d.written = (writtenNumbers every pictures.length).length := by
  obtain ⟨d, after, hrun⟩ := (noFault_iff hcodec hsize).mp h
  obtain ⟨d₀, opened, hcreate, hshown⟩ := run_eq_ok_iff.mp hrun
  obtain ⟨hmade, rfl, rfl, hevery, hpresented, hnone⟩ := create_eq_ok hcreate
  have hsame := FileTree.SameFiles.ensureDirectory before d₀.dir
  rw [hmade] at hsame
  obtain ⟨-, -, -, -, hwritten, rfl⟩ := presentAll_eq_ok hshown
  have hplaces : (d₀.pictureFiles opened pictures).map (·.1) =
      (writtenNumbers every pictures.length).map fun i =>
        opened.target d₀.dir ++ [frameName i] := map_fst_pictureFiles hevery hpresented
  refine ⟨d, _, hrun, ?_, frameName_injective, ?_⟩
  · intro place bytes
    have hfile (i : Nat) (picture : PixelBuffer) (hpicture : pictures[i]? = some picture) :
        IsPpmOf bytes picture ↔ bytes = picture.toPpm d₀.codec := by
      obtain ⟨hwidth, hheight⟩ := hsize picture (List.mem_of_getElem? hpicture)
      exact isPpmOf_iff hcodec hwidth hheight
    rw [FileTree.node?_putAll_eq_some_iff (nodup_pictureFiles hevery hpresented)
      (nil_notMem_pictureFiles hevery hpresented), mem_pictureFiles_iff hevery hpresented,
      hplaces, hsame.node, FileTree.target_congr hsame.home, List.mem_map, not_exists]
    simp only [Node.file.injEq, not_and, ne_eq, eq_comm (a := place)]
    refine or_congr_left (exists_congr fun i => and_congr_right fun _ => exists_congr fun picture =>
      and_congr_right fun hpicture => and_congr_right fun _ => ?_)
    exact (hfile _ _ hpicture).symm
  · rw [hwritten, hnone, Nat.zero_add, ← List.length_map (·.1), hplaces, List.length_map]

/-- Three pictures of different sizes. -/
def threePictures : List PixelBuffer :=
  [.ofPlaces 1 1 fun k => UInt8.ofNat k, .blank 2 2, .ofPlaces 2 1 fun k => UInt8.ofNat (k + 8)]

theorem run_files_everySecond :
    PpmCodec.binary.IsLawful ∧ (∀ picture ∈ threePictures, 0 < picture.width ∧ 0 < picture.height) ∧
      NoFault .binary "out" 2 (.empty ["home"]) threePictures ∧ ∃ d after,
    run .binary "out" 2 (.empty ["home"]) threePictures = .ok (d, after) ∧ d.written = 2 ∧
      after.node? ["home", "out", "frame-000003.ppm"] =
        some (.file ("P6\n2 1 255\n".toUTF8.data ++ #[8, 9, 10, 12, 13, 14])) ∧
      ∀ bytes, after.node? ["home", "out", "frame-000002.ppm"] ≠ some (.file bytes) := by
  have hsize : ∀ picture ∈ threePictures, 0 < picture.width ∧ 0 < picture.height := by
    decide +kernel
  have hruns : (run .binary "out" 2 (.empty ["home"]) threePictures).toOption.isSome = true := by
    decide +kernel
  have hnone : NoFault .binary "out" 2 (.empty ["home"]) threePictures := by
    refine (noFault_iff PpmCodec.isLawful_binary hsize).mpr ?_
    cases hrun : run .binary "out" 2 (.empty ["home"]) threePictures with
    | error fault =>
      rw [hrun] at hruns
      cases hruns
    | ok shown => exact ⟨shown.1, shown.2, rfl⟩
  obtain ⟨d, after, hrun, hfiles, -, hwritten⟩ :=
    run_files PpmCodec.isLawful_binary hsize hnone
  refine ⟨PpmCodec.isLawful_binary, hsize, hnone, d, after, hrun, hwritten, ?_, ?_⟩
  · rw [hfiles]
    refine .inl ⟨3, by decide, _, rfl, by decide +kernel, ?_⟩
    rw [isPpmOf_iff PpmCodec.isLawful_binary (by decide) (by decide)]
    decide +kernel
  · intro bytes h
    rcases (hfiles _ _).mp h with ⟨i, hi, _, _, hplace, _⟩ | ⟨-, hbefore⟩
    · have hothers : ∀ i ∈ writtenNumbers 2 threePictures.length,
          ["home", "out", "frame-000002.ppm"] ≠
            (FileTree.empty ["home"]).target "out" ++ [frameName i] := by decide +kernel
      exact hothers i hi hplace
    · have hnone : (FileTree.empty ["home"]).node? ["home", "out", "frame-000002.ppm"] = none := by
        decide
      rw [hnone] at hbefore
      cases hbefore

end PpmDump

end AviPlayback
