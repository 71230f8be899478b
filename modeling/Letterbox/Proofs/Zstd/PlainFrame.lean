import Letterbox.Zstd.Frame

namespace Letterbox.Zstd

theorem toNat_littleEndian (n : Nat) (hn : n < 16777216) :
    littleEndian [UInt8.ofNat n, UInt8.ofNat (n / 256), UInt8.ofNat (n / 65536)] = n := by
  simp only [littleEndian, List.foldr_cons, List.foldr_nil, UInt8.toNat_ofNat']
  omega

theorem takeBytes?_append (s rest : List UInt8) :
    takeBytes? s.length (s ++ rest) = some (s, rest) := by
  simp [takeBytes?]

theorem readBlock_plain (h : FrameHeader) (m : Memory) (out : Array UInt8) (s rest : List UInt8)
    (hs : s.length ≤ h.blockSize) :
    readBlock h 0 s.length m out (s ++ rest) = some ((m, out ++ s.toArray), rest) := by
  have hlt : ¬ h.blockSize < s.length := by omega
  simp [readBlock, hlt, takeBytes?_append]

theorem readBlocks_plainBlock (h : FrameHeader) (fuel : Nat) (m : Memory) (out : Array UInt8)
    (last : Bool) (s rest : List UInt8) (hs : s.length ≤ h.blockSize)
    (hb : h.blockSize ≤ blockLimit) :
    readBlocks h (fuel + 1) m out (plainBlock last s ++ rest) =
      if last then some (out ++ s.toArray, rest)
      else readBlocks h fuel m (out ++ s.toArray) rest := by
  let word := s.length * 8 + (if last then 1 else 0)
  have hword : littleEndian
      [UInt8.ofNat word, UInt8.ofNat (word / 256), UInt8.ofNat (word / 65536)] = word := by
    apply toNat_littleEndian
    simp only [word, blockLimit] at hb ⊢
    split <;> omega
  have hkind : word / 2 % 4 = 0 := by simp only [word]; split <;> omega
  have hsize : word / 8 = s.length := by simp only [word]; split <;> omega
  have hlast : (word % 2 == 1) = last := by
    cases last
    · have : word % 2 = 0 := by simp only [word]; simp; omega
      simp [this]
    · have : word % 2 = 1 := by simp only [word]; simp; omega
      simp [this]
  change readBlocks h (fuel + 1) m out (UInt8.ofNat word :: UInt8.ofNat (word / 256) ::
    UInt8.ofNat (word / 65536) :: (s ++ rest)) = _
  simp only [readBlocks, hword, hkind, hsize, hlast, readBlock_plain h m out s rest hs,
    Option.bind_some]

theorem readBlocks_plainBlocks (h : FrameHeader) (hb : h.blockSize = blockLimit) (m : Memory)
    (s : List UInt8) (fuel : Nat) (out : Array UInt8) (hfuel : s.length < fuel) :
    readBlocks h fuel m out (plainBlocks s) = some (out ++ s.toArray, []) := by
  induction s using plainBlocks.induct generalizing fuel out with
  | case1 s hlong ih =>
    obtain ⟨fuel, rfl⟩ : ∃ n, fuel = n + 1 := ⟨fuel - 1, by omega⟩
    have htake : (s.take blockLimit).length = blockLimit := by
      rw [List.length_take]; omega
    have hdrop : (s.drop blockLimit).length < fuel := by
      simp only [List.length_drop, blockLimit] at hlong ⊢; omega
    rw [plainBlocks, if_pos hlong,
      readBlocks_plainBlock h fuel m out false _ _ (by omega) (by omega), if_neg (by simp),
      ih fuel _ hdrop]
    simp [Array.append_assoc]
  | case2 s hshort =>
    obtain ⟨fuel, rfl⟩ : ∃ n, fuel = n + 1 := ⟨fuel - 1, by omega⟩
    have hone := readBlocks_plainBlock h fuel m out true s [] (by omega) (by omega)
    rw [plainBlocks, if_neg hshort]
    simpa using hone

theorem length_le_plainBlocks (s : List UInt8) : s.length ≤ (plainBlocks s).length := by
  induction s using plainBlocks.induct with
  | case1 s hlong ih =>
    rw [plainBlocks, if_pos hlong]
    simp only [plainBlock, List.length_append, List.length_take, List.length_drop] at ih ⊢
    omega
  | case2 s hshort =>
    rw [plainBlocks, if_neg hshort]
    simp only [plainBlock, List.length_append]
    omega

def plainHeader : FrameHeader :=
  { window := 131072, contentSize := none, checksum := false }

theorem read?_plainHeader (s : List UInt8) :
    FrameHeader.read? (0 :: 0x38 :: s) = some (plainHeader, s) := by
  simp [FrameHeader.read?, takeBytes?, FrameHeader.sizeWidth, FrameHeader.sizeOf, littleEndian,
    FrameHeader.windowOf, windowLimit, plainHeader]

theorem readFrame_plainBlocks (s : List UInt8) :
    readFrame (0 :: 0x38 :: plainBlocks s) = some (s, []) := by
  have hfuel : s.length < (plainBlocks s).length + 1 := by
    have := length_le_plainBlocks s
    omega
  have hblocks := readBlocks_plainBlocks plainHeader rfl {} s _ #[] hfuel
  simp only [readFrame, read?_plainHeader, Option.bind_eq_bind, Option.bind_some, hblocks]
  simp [plainHeader]

theorem readFrames_single (fuel : Nat) (s content : List UInt8)
    (hs : readFrame s = some (content, [])) :
    readFrames (fuel + 2) (magic ++ s) = some content := by
  have htake : takeBytes? 4 (magic ++ s) = some (magic, s) := takeBytes?_append magic s
  rw [readFrames, if_neg (by simp [magic]), htake]
  simp [hs, readFrames]

theorem decompress?_compress (s : List UInt8) : decompress? (compress s) = some s := by
  rw [decompress?, if_neg (by simp [compress, magic])]
  exact readFrames_single _ (0 :: 0x38 :: plainBlocks s) s (readFrame_plainBlocks s)

end Letterbox.Zstd
