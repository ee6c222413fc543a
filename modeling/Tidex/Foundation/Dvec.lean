/-
  Foundation.Dvec — dense deltas of singles under the private root.
-/
import Tidex.Foundation.Artifact
import Tidex.Lib.Binary32

namespace Tidex

open Tidex.Lib List ByteArray CountedForm Sha256Digest

namespace Dvec

/-! ## The form -/

def form : CountedForm where
  mark := "TIDEXD01".toByteArray
  width := 4
  size_mark := by decide

/-- The place, the content and the length of a dense delta. -/
structure DeltaArtifactRef where
  path : String
  sha256 : Sha256Digest
  parameterCount : Nat
  deriving DecidableEq

def f32ToLeBytes (x : F32) : ByteArray := le32 x.bits

def f32FromLeBytes (raw : ByteArray) : F32 where
  bits := ofLe raw % 2 ^ 32
  lt := Nat.mod_lt _ (by decide)

def payload (values : List F32) : ByteArray := joined (values.map f32ToLeBytes)

def dvecBytes (values : List F32) : ByteArray := form.encode (values.map f32ToLeBytes)

def artifactDir (root : String) : String := Path.push (Path.push root "artifacts") "deltas"

def contentArtifactDir (root : String) : String := Path.push (artifactDir root) "by-sha"

def contentOutputPath (root : String) (digest : Sha256Digest) : String :=
  Path.push (contentArtifactDir root) (digest.hex ++ ".dvec")

def readHeader (bytes : ByteArray) : BrainResult Nat := do
  failIf (bytes.size < 8) unexpectedEof
  failIf (CountedForm.markOf bytes ≠ form.mark) (integrity "delta_artifact_magic_invalid")
  failIf (bytes.size < CountedForm.headerBytes) unexpectedEof
  return CountedForm.countOf bytes

def parentName (path : String) : Option String := do
  let parts ← Path.parentComponents path
  let last ← parts.getLast?
  Path.asNormal last

def contentDvecDigestFromPath (path : String) : BrainResult (Option Sha256Digest) :=
  if parentName path ≠ some "by-sha" then .ok none
  else do
    let stem ← okOr (Path.fileStem path) (integrity "content_addressed_artifact_name_invalid")
    if h : isValidStr stem = true then return some ⟨stem, h⟩
    else .error (invalid "sha256_digest_invalid")

def verifiedDvecPathUnderRoot (root path : String) : BrainResult String := do
  let confined ← confine root path
  let parent ← okOr (Path.parentComponents path) (invalid "artifact_path_parent_missing")
  failIf (Path.extension path ≠ some "dvec" ∨ (parent ≠ Path.components (artifactDir root)
      ∧ parent ≠ Path.components (contentArtifactDir root)))
    (integrity "artifact_path_root_mismatch")
  return confined

section

variable [Platform]

/-- The reference of the delta at a path, and its bytes. -/
def inspectOpenDvec (root : String) (fs : PrivateRoot) (path : String) :
    BrainResult (DeltaArtifactRef × ByteArray) := do
  let confined ← verifiedDvecPathUnderRoot root path
  let bytes ← fs.content confined
  let count ← readHeader bytes
  let payload ← checkedMul u64Values count 4 (invalid "artifact_size_overflow")
  let expected ← checkedAdd u64Values CountedForm.headerBytes payload
    (invalid "artifact_size_overflow")
  failIf (bytes.size ≠ expected)
    (integrity ("artifact_size_mismatch:" ++ toString bytes.size ++ ":" ++ toString expected))
  let named ← contentDvecDigestFromPath path
  failIf (named.isSome = true ∧ named ≠ some (digestBytes bytes))
    (integrity "content_addressed_artifact_name_digest_mismatch")
  return (⟨path, digestBytes bytes, count⟩, bytes)

def inspectDvec (root : String) (fs : PrivateRoot) (path : String) :
    BrainResult DeltaArtifactRef := do
  let (inspected, _) ← inspectOpenDvec root fs path
  return inspected

def verifiedDeltaReferenceOpen (root : String) (fs : PrivateRoot) (reference : DeltaArtifactRef) :
    BrainResult (DeltaArtifactRef × ByteArray) := do
  let (inspected, bytes) ← inspectOpenDvec root fs reference.path
  failIf (inspected.sha256 ≠ reference.sha256
      ∨ inspected.parameterCount ≠ reference.parameterCount)
    (integrity "artifact_reference_mismatch")
  let named ← contentDvecDigestFromPath inspected.path
  failIf (named.isSome = true ∧ Path.components inspected.path ≠
      Path.components (contentOutputPath root reference.sha256))
    (integrity "content_addressed_artifact_reference_path_mismatch")
  return (inspected, bytes)

end

/-! ## The stream -/

structure VerifiedDvecReader where
  reference : DeltaArtifactRef
  rest : ByteArray
  nextParameter : Nat
  consumed : ByteArray

def readExact (rest : ByteArray) (n : Nat) : BrainResult (ByteArray × ByteArray) := do
  failIf (rest.size < n) unexpectedEof
  return (rest.extract 0 n, rest.extract n rest.size)

/-- A single that is not infinite and no NaN. -/
def finiteF32 (raw : ByteArray) : BrainResult F32 := do
  failIf ((f32FromLeBytes raw).isFinite = false) (integrity "artifact_non_finite")
  return f32FromLeBytes raw

namespace VerifiedDvecReader

def readOneF32 (r : VerifiedDvecReader) : BrainResult (F32 × VerifiedDvecReader) := do
  failIf (r.nextParameter ≥ r.reference.parameterCount)
    (invalid "artifact_stream_range_out_of_bounds")
  let (raw, rest) ← readExact r.rest 4
  let value ← finiteF32 raw
  return (value, { r with
    rest := rest, nextParameter := r.nextParameter + 1, consumed := r.consumed ++ raw })

def readF32 (r : VerifiedDvecReader) (len : Nat) :
    BrainResult (List F32 × VerifiedDvecReader) := do
  failIf (len = 0) (invalid "artifact_stream_chunk_empty")
  let stop ← checkedAdd u64Values r.nextParameter len (invalid "artifact_stream_range_overflow")
  failIf (stop > r.reference.parameterCount) (invalid "artifact_stream_range_out_of_bounds")
  let byteLen ← checkedMul u64Values len 4 (invalid "artifact_stream_range_overflow")
  let (raw, rest) ← readExact r.rest byteLen
  let values ← (cut raw 0 4 len).mapM finiteF32
  return (values, { r with
    rest := rest, nextParameter := stop, consumed := r.consumed ++ raw })

def finish [Platform] (r : VerifiedDvecReader) : BrainResult Unit := do
  failIf (r.nextParameter ≠ r.reference.parameterCount)
    (integrity ("artifact_stream_incomplete:" ++ toString r.nextParameter ++ ":" ++
      toString r.reference.parameterCount))
  failIf (r.rest.size ≠ 0) (integrity "artifact_stream_trailing_bytes")
  failIf (digestBytes r.consumed ≠ r.reference.sha256)
    (integrity "artifact_stream_consumed_digest_mismatch")

/-- Read value by value, as often as is given. -/
def readRest : Nat → VerifiedDvecReader → BrainResult (List F32 × VerifiedDvecReader)
  | 0, r => .ok ([], r)
  | n + 1, r => do
    let (value, r) ← r.readOneF32
    let (values, r) ← readRest n r
    return (value :: values, r)

def readChunks : List Nat → VerifiedDvecReader → BrainResult (List F32 × VerifiedDvecReader)
  | [], r => .ok ([], r)
  | len :: lens, r => do
    let (chunk, r) ← r.readF32 len
    let (values, r) ← readChunks lens r
    return (chunk ++ values, r)

end VerifiedDvecReader

section

variable [Platform]

def openReader (root : String) (fs : PrivateRoot) (reference : DeltaArtifactRef) :
    BrainResult VerifiedDvecReader := do
  let (inspected, bytes) ← verifiedDeltaReferenceOpen root fs reference
  let (header, rest) ← readExact bytes CountedForm.headerBytes
  let count ← readHeader header
  failIf (count ≠ inspected.parameterCount)
    (integrity "artifact_header_reference_count_mismatch")
  return ⟨inspected, rest, 0, header⟩

def readDvecF32 (root : String) (fs : PrivateRoot) (reference : DeltaArtifactRef) :
    BrainResult (List F32) := do
  let r ← openReader root fs reference
  let (values, r) ← r.readRest (r.reference.parameterCount - r.nextParameter)
  r.finish
  return values

def readDvecByChunks (root : String) (fs : PrivateRoot) (reference : DeltaArtifactRef)
    (lens : List Nat) : BrainResult (List F32) := do
  let r ← openReader root fs reference
  let (values, r) ← r.readChunks lens
  r.finish
  return values

end

/-! ## Bytes of singles -/

lemma size_f32 (x : F32) : (f32ToLeBytes x).size = 4 := size_le32 _

lemma f32FromLeBytes_toLeBytes (x : F32) : f32FromLeBytes (f32ToLeBytes x) = x := by
  obtain ⟨bits, hlt⟩ := x
  have hword : ofLe (le32 bits) = bits := ofLe_le32 hlt
  unfold f32FromLeBytes f32ToLeBytes
  simp only [hword, Nat.mod_eq_of_lt hlt]

lemma f32ToLeBytes_fromLeBytes {raw : ByteArray} (h : raw.size = 4) :
    f32ToLeBytes (f32FromLeBytes raw) = raw := by
  have hlt : ofLe raw < 2 ^ 32 := by
    have hbound := @ofLe_lt raw
    rw [h] at hbound
    exact hbound
  show le32 (ofLe raw % 2 ^ 32) = raw
  rw [Nat.mod_eq_of_lt hlt]
  exact le32_ofLe h

lemma sizes_f32 {values : List F32} : ∀ part ∈ values.map f32ToLeBytes, part.size = 4 := by
  intro part hpart
  obtain ⟨value, -, rfl⟩ := mem_map.mp hpart
  exact size_f32 value

lemma size_payload (values : List F32) : (payload values).size = values.length * 4 := by
  unfold payload
  rw [size_joined_of_width sizes_f32, length_map]

lemma payload_append (xs ys : List F32) : payload (xs ++ ys) = payload xs ++ payload ys := by
  unfold payload
  rw [map_append, joined_append]

lemma payload_nil : payload [] = empty := rfl

lemma payload_one (x : F32) : payload [x] = f32ToLeBytes x := by
  show f32ToLeBytes x ++ empty = _
  rw [append_empty]

lemma dvecBytes_eq (values : List F32) :
    dvecBytes values = form.header values.length ++ payload values := by
  unfold dvecBytes payload encode
  rw [length_map]

lemma size_dvecBytes (values : List F32) :
    (dvecBytes values).size = headerBytes + values.length * 4 := by
  rw [dvecBytes_eq, size_append, size_header, size_payload]

/-- The next bytes of a stream are what it begins with. -/
lemma readExact_ok {bytes raw rest : ByteArray} {n : Nat} :
    readExact bytes n = .ok (raw, rest) ↔ raw.size = n ∧ bytes = raw ++ rest := by
  unfold readExact
  simp only [bind_ok, failIf_ok, pure_ok, Prod.mk.injEq, not_lt]
  constructor
  · intro h
    obtain ⟨_, hsize, hraw, hrest⟩ := h
    refine ⟨?_, ?_⟩
    · rw [← hraw, size_extract]
      omega
    · rw [← hraw, ← hrest, ← extract_eq_extract_append_extract n (by omega) hsize,
        extract_zero_size]
  · intro h
    obtain ⟨hsize, hbytes⟩ := h
    have htotal : bytes.size = n + rest.size := by
      rw [hbytes, size_append, hsize]
    refine ⟨(), by omega, ?_, ?_⟩
    · rw [hbytes]
      exact extract_append_eq_left hsize.symm
    · rw [htotal, hbytes]
      exact extract_append_eq_right hsize.symm (by rw [hsize])

lemma finiteF32_ok {raw : ByteArray} {x : F32} (h : raw.size = 4) :
    finiteF32 raw = .ok x ↔ x.isFinite = true ∧ raw = f32ToLeBytes x := by
  unfold finiteF32
  simp only [bind_ok, failIf_ok, pure_ok, Bool.not_eq_false]
  constructor
  · intro hread
    obtain ⟨_, hfinite, heq⟩ := hread
    rw [← heq]
    exact ⟨hfinite, (f32ToLeBytes_fromLeBytes h).symm⟩
  · intro hread
    obtain ⟨hfinite, heq⟩ := hread
    rw [heq, f32FromLeBytes_toLeBytes]
    exact ⟨(), hfinite, rfl⟩

/-! ## What reads hand out -/

/-- A read hands out finite values, whose bytes are the next ones of the stream. -/
structure Handed (r : VerifiedDvecReader) (values : List F32) (r' : VerifiedDvecReader) : Prop where
  finite : ∀ x ∈ values, x.isFinite = true
  rest : r.rest = payload values ++ r'.rest
  reference : r'.reference = r.reference
  next : r'.nextParameter = r.nextParameter + values.length
  consumed : r'.consumed = r.consumed ++ payload values

namespace Handed

variable {r r' r'' : VerifiedDvecReader} {xs ys : List F32}

lemma refl (r : VerifiedDvecReader) : Handed r [] r := by
  refine ⟨?_, ?_, rfl, rfl, ?_⟩
  · intro x hx
    cases hx
  · rw [payload_nil, empty_append]
  · rw [payload_nil, append_empty]

lemma eq_of_nil (h : Handed r [] r') : r' = r := by
  have hrest := h.rest
  have hconsumed := h.consumed
  rw [payload_nil, empty_append] at hrest
  rw [payload_nil, append_empty] at hconsumed
  obtain ⟨_, _, _, _⟩ := r
  obtain ⟨_, _, _, _⟩ := r'
  have hreference := h.reference
  have hnext := h.next
  simp only [length_nil, Nat.add_zero] at hnext hrest hconsumed hreference
  rw [hrest, hconsumed, hreference, hnext]

/-- Two reads hand out the values of both, one after the other. -/
lemma trans (h : Handed r xs r') (h' : Handed r' ys r'') : Handed r (xs ++ ys) r'' := by
  refine ⟨?_, ?_, h'.reference.trans h.reference, ?_, ?_⟩
  · intro x hx
    rcases mem_append.mp hx with hx | hx
    · exact h.finite x hx
    · exact h'.finite x hx
  · rw [h.rest, h'.rest, payload_append, ByteArray.append_assoc]
  · rw [h'.next, h.next, length_append, Nat.add_assoc]
  · rw [h'.consumed, h.consumed, payload_append, ByteArray.append_assoc]

lemma split (h : Handed r (xs ++ ys) r'') : ∃ r', Handed r xs r' ∧ Handed r' ys r'' := by
  refine ⟨⟨r.reference, payload ys ++ r''.rest, r.nextParameter + xs.length,
    r.consumed ++ payload xs⟩, ⟨?_, ?_, rfl, rfl, rfl⟩, ⟨?_, rfl, h.reference, ?_, ?_⟩⟩
  · intro x hx
    exact h.finite x (mem_append_left _ hx)
  · rw [h.rest, payload_append, ByteArray.append_assoc]
  · intro x hx
    exact h.finite x (mem_append_right _ hx)
  · rw [h.next, length_append, Nat.add_assoc]
  · rw [h.consumed, payload_append, ByteArray.append_assoc]

end Handed

section

variable {r r' : VerifiedDvecReader} {xs : List F32} {x : F32}

/-- One value is handed out where the stream begins with it. -/
lemma readOneF32_ok (hnext : r.nextParameter < r.reference.parameterCount) :
    r.readOneF32 = .ok (x, r') ↔ Handed r [x] r' := by
  unfold VerifiedDvecReader.readOneF32
  simp only [bind_ok, failIf_ok, pure_ok, Prod.exists, Prod.mk.injEq]
  constructor
  · intro h
    obtain ⟨_, -, raw, rest, hread, value, hvalue, heq, hr⟩ := h
    obtain ⟨hsize, hbytes⟩ := readExact_ok.mp hread
    obtain ⟨hfinite, hraw⟩ := (finiteF32_ok hsize).mp hvalue
    subst heq
    subst hr
    refine ⟨?_, ?_, rfl, rfl, ?_⟩
    · intro y hy
      rw [mem_singleton.mp hy]
      exact hfinite
    · rw [payload_one, ← hraw]
      exact hbytes
    · rw [payload_one, ← hraw]
  · intro h
    have hrest := h.rest
    have hconsumed := h.consumed
    rw [payload_one] at hrest hconsumed
    refine ⟨(), by omega, f32ToLeBytes x, r'.rest, readExact_ok.mpr ⟨size_f32 x, hrest⟩, x,
      (finiteF32_ok (size_f32 x)).mpr ⟨h.finite x mem_cons_self, rfl⟩, rfl, ?_⟩
    obtain ⟨_, _, _, _⟩ := r'
    have hreference := h.reference
    have hnext' := h.next
    simp only at hconsumed hreference hnext'
    rw [hconsumed, hreference, hnext']
    rfl

/-- A chunk is handed out where the stream begins with its values. -/
lemma readF32_ok {len : Nat} (hpos : 0 < len)
    (hstop : r.nextParameter + len ≤ r.reference.parameterCount)
    (hfits : headerBytes + r.reference.parameterCount * 4 < u64Values) :
    r.readF32 len = .ok (xs, r') ↔ xs.length = len ∧ Handed r xs r' := by
  unfold VerifiedDvecReader.readF32
  simp only [bind_ok, failIf_ok, checkedAdd_ok, checkedMul_ok, pure_ok, Prod.exists, Prod.mk.injEq]
  constructor
  · intro h
    obtain ⟨_, -, stop, ⟨-, rfl⟩, _, -, byteLen, ⟨-, rfl⟩, raw, rest, hread, values, hvalues, heq,
      hr⟩ := h
    obtain ⟨hsize, hbytes⟩ := readExact_ok.mp hread
    subst hr
    rw [heq, mapM_ok] at hvalues
    have htiles := tiles_evenSpans 0 4 len
    have hjoined : joined (cut raw 0 4 len) = raw := by
      unfold cut
      rw [joined_slices raw htiles, Nat.zero_add, ← hsize]
      exact extract_zero_size
    have hsizes : ∀ part ∈ cut raw 0 4 len, part.size = 4 := by
      intro part hpart
      obtain ⟨span, hspan, rfl⟩ := mem_map.mp hpart
      have hmem := htiles.mem hspan
      have hwidth : span.2 - span.1 = 4 := by
        have hmap := mem_map_of_mem (f := fun span : Nat × Nat => span.2 - span.1) hspan
        rw [sizes_evenSpans] at hmap
        exact (mem_replicate.mp hmap).2
      show (raw.extract span.1 span.2).size = 4
      rw [size_extract]
      omega
    have hlength : xs.length = len := by
      rw [← hvalues.length_eq]
      unfold cut
      rw [length_map]
      have hcount := congrArg length (sizes_evenSpans 0 4 len)
      rw [length_map, length_replicate] at hcount
      exact hcount
    have hparts : cut raw 0 4 len = xs.map f32ToLeBytes ∧ ∀ y ∈ xs, y.isFinite = true := by
      clear hread hbytes hjoined hlength htiles hsize heq
      generalize cut raw 0 4 len = parts at hvalues hsizes
      induction hvalues with
      | nil => exact ⟨rfl, forall_mem_nil _⟩
      | cons hone _ ih =>
        rw [forall_mem_cons] at hsizes
        obtain ⟨hfinite, hraw⟩ := (finiteF32_ok hsizes.1).mp hone
        obtain ⟨hrest, hall⟩ := ih hsizes.2
        refine ⟨by rw [map_cons, ← hraw, hrest], ?_⟩
        exact forall_mem_cons.mpr ⟨hfinite, hall⟩
    have hraw : raw = payload xs := by
      unfold payload
      rw [← hparts.1, hjoined]
    refine ⟨hlength, hparts.2, ?_, rfl, ?_, ?_⟩
    · rw [← hraw]
      exact hbytes
    · rw [hlength]
    · rw [← hraw]
  · intro h
    obtain ⟨hlength, hhanded⟩ := h
    have hcut : cut (payload xs) 0 4 len = xs.map f32ToLeBytes := by
      have hempty : cut (empty ++ joined (xs.map f32ToLeBytes)) empty.size 4
          (xs.map f32ToLeBytes).length = xs.map f32ToLeBytes := cut_joined sizes_f32
      rw [length_map, hlength, empty_append] at hempty
      exact hempty
    refine ⟨(), by omega, r.nextParameter + len, ⟨by omega, rfl⟩, (), by omega, len * 4,
      ⟨by omega, rfl⟩, payload xs, r'.rest,
      readExact_ok.mpr ⟨by rw [size_payload, hlength], hhanded.rest⟩, xs, ?_, rfl, ?_⟩
    · rw [hcut, mapM_ok, forall₂_map_left_iff]
      refine forall₂_same.mpr ?_
      intro y hy
      exact (finiteF32_ok (size_f32 y)).mpr ⟨hhanded.finite y hy, rfl⟩
    · obtain ⟨_, _, _, _⟩ := r'
      have hreference := hhanded.reference
      have hnext := hhanded.next
      have hconsumed := hhanded.consumed
      simp only at hreference hnext hconsumed
      rw [hreference, hnext, hconsumed, hlength]

/-- Reading value by value hands out as many as are read. -/
lemma readRest_ok {n : Nat} (hstop : r.nextParameter + n ≤ r.reference.parameterCount) :
    r.readRest n = .ok (xs, r') ↔ xs.length = n ∧ Handed r xs r' := by
  induction n generalizing r xs with
  | zero =>
    unfold VerifiedDvecReader.readRest
    constructor
    · intro h
      cases h
      exact ⟨rfl, Handed.refl _⟩
    · intro h
      obtain ⟨hlength, hhanded⟩ := h
      have hnil := eq_nil_of_length_eq_zero hlength
      subst hnil
      rw [hhanded.eq_of_nil]
  | succ n ih =>
    unfold VerifiedDvecReader.readRest
    simp only [bind_ok, pure_ok, Prod.exists, Prod.mk.injEq]
    constructor
    · intro h
      obtain ⟨x, r₁, hone, ys, r₂, hrest, hxs, rfl⟩ := h
      have hhead := (readOneF32_ok (by omega)).mp hone
      have hnext := hhead.next
      rw [length_singleton] at hnext
      obtain ⟨hlength, htail⟩ := (ih (by rw [hnext, hhead.reference]; omega)).mp hrest
      rw [← hxs]
      exact ⟨by rw [length_cons, hlength], hhead.trans htail⟩
    · intro h
      obtain ⟨hlength, hhanded⟩ := h
      cases xs with
      | nil => cases hlength
      | cons x ys =>
        have hsplit : Handed r ([x] ++ ys) r' := hhanded
        obtain ⟨r₁, hhead, htail⟩ := hsplit.split
        have hnext := hhead.next
        rw [length_singleton] at hnext
        refine ⟨x, r₁, (readOneF32_ok (by omega)).mpr hhead, ys, r', ?_, rfl, rfl⟩
        rw [length_cons] at hlength
        exact (ih (by rw [hnext, hhead.reference]; omega)).mpr ⟨by omega, htail⟩

lemma readChunks_ok {lens : List Nat} (hpos : ∀ len ∈ lens, 0 < len)
    (hstop : r.nextParameter + lens.sum ≤ r.reference.parameterCount)
    (hfits : headerBytes + r.reference.parameterCount * 4 < u64Values) :
    r.readChunks lens = .ok (xs, r') ↔ xs.length = lens.sum ∧ Handed r xs r' := by
  induction lens generalizing r xs with
  | nil =>
    unfold VerifiedDvecReader.readChunks
    constructor
    · intro h
      cases h
      exact ⟨rfl, Handed.refl _⟩
    · intro h
      obtain ⟨hlength, hhanded⟩ := h
      have hnil := eq_nil_of_length_eq_zero hlength
      subst hnil
      rw [hhanded.eq_of_nil]
  | cons len lens ih =>
    rw [forall_mem_cons] at hpos
    rw [sum_cons] at hstop ⊢
    unfold VerifiedDvecReader.readChunks
    simp only [bind_ok, pure_ok, Prod.exists, Prod.mk.injEq]
    constructor
    · intro h
      obtain ⟨chunk, r₁, hone, ys, r₂, hrest, hxs, rfl⟩ := h
      obtain ⟨hchunk, hhead⟩ := (readF32_ok hpos.1 (by omega) hfits).mp hone
      have hnext := hhead.next
      obtain ⟨hlength, htail⟩ := (ih hpos.2 (by rw [hnext, hhead.reference]; omega)
        (by rw [hhead.reference]; exact hfits)).mp hrest
      rw [← hxs]
      exact ⟨by rw [length_append, hlength, hchunk], hhead.trans htail⟩
    · intro h
      obtain ⟨hlength, hhanded⟩ := h
      -- the first values are the first chunk
      rw [← take_append_drop len xs] at hhanded
      have htake : (xs.take len).length = len := by
        rw [length_take]
        omega
      obtain ⟨r₁, hhead, htail⟩ := hhanded.split
      have hnext := hhead.next
      refine ⟨xs.take len, r₁, (readF32_ok hpos.1 (by omega) hfits).mpr ⟨htake, hhead⟩,
        xs.drop len, r', ?_, take_append_drop len xs, rfl⟩
      refine (ih hpos.2 (by rw [hnext, hhead.reference]; omega)
        (by rw [hhead.reference]; exact hfits)).mpr ⟨?_, htail⟩
      rw [length_drop]
      omega

end

/-! ## What is stored is read back -/

section

variable [Platform] {root path : String} {fs : PrivateRoot} {values : List F32}
  {reference : DeltaArtifactRef}

structure DvecValues (values : List F32) : Prop where
  finite : ∀ x ∈ values, x.isFinite = true
  fits : CountedForm.headerBytes + values.length * 4 < u64Values

/-- The delta of some values is at a path, which has its digest as a name or gives none. -/
structure DvecStored (root : String) (fs : PrivateRoot) (path : String) (values : List F32) :
    Prop where
  verified : verifiedDvecPathUnderRoot root path = .ok path
  content : fs.content path = .ok (dvecBytes values)
  named : contentDvecDigestFromPath path = .ok none ∨
    contentDvecDigestFromPath path = .ok (some (digestBytes (dvecBytes values))) ∧
      path = contentOutputPath root (digestBytes (dvecBytes values))

def referenceOf (path : String) (values : List F32) : DeltaArtifactRef :=
  ⟨path, digestBytes (dvecBytes values), values.length⟩

section

omit [Platform]

lemma readHeader_header {count : Nat} (h : count < u64Values) (rest : ByteArray) :
    readHeader (form.header count ++ rest) = .ok count := by
  have hsize : (form.header count ++ rest).size = 16 + rest.size := by
    rw [ByteArray.size_append, size_header]
    rfl
  have hmark : markOf (form.header count ++ rest) = form.mark := by
    unfold markOf slice header
    rw [ByteArray.append_assoc]
    exact ByteArray.extract_append_eq_left form.size_mark.symm
  have hcount : countOf (form.header count ++ rest) = count := by
    have hslice : slice (form.header count ++ rest) (8, 16) = le64 count := by
      unfold slice header
      rw [ByteArray.append_assoc]
      have hmove := ByteArray.extract_append_size_add (a := form.mark) (b := le64 count ++ rest)
        (i := 0) (j := 8)
      rw [form.size_mark] at hmove
      show ByteArray.extract _ 8 16 = _
      rw [hmove]
      exact ByteArray.extract_append_eq_left (size_le64 _).symm
    unfold countOf
    rw [hslice]
    exact ofLe_le64 h
  have hheader : headerBytes = 16 := rfl
  unfold readHeader
  simp only [bind_ok, failIf_ok, pure_ok, ne_eq, not_not, not_lt]
  exact ⟨(), by omega, (), hmark, (), by omega, hcount⟩

lemma header_of_readHeader {bytes header rest : ByteArray} {count : Nat}
    (h : readHeader bytes = .ok count) (hsize : header.size = CountedForm.headerBytes)
    (hbytes : bytes = header ++ rest) : header = form.header count := by
  unfold readHeader at h
  simp only [bind_ok, failIf_ok, pure_ok, ne_eq, not_not, not_lt] at h
  obtain ⟨_, -, _, hmark, _, -, hcount⟩ := h
  have hheader : CountedForm.headerBytes = 16 := rfl
  have hfirst : bytes.extract 0 8 = form.mark := hmark
  have hsecond : le64 count = bytes.extract 8 16 := by
    rw [← hcount]
    apply le64_ofLe
    show (bytes.extract 8 16).size = 8
    rw [size_extract, hbytes, size_append]
    omega
  have hall : header = bytes.extract 0 16 := by
    rw [hbytes, ← hheader, ← hsize]
    exact (extract_append_eq_left rfl).symm
  unfold CountedForm.header
  rw [hall, ← hfirst, hsecond]
  apply extract_eq_extract_append_extract 8 (by decide) (by decide)

end

lemma inspect_of_stored (h : DvecValues values) (hstored : DvecStored root fs path values) :
    inspectOpenDvec root fs path = .ok (referenceOf path values, dvecBytes values) := by
  have hfits := h.fits
  have hcount : readHeader (dvecBytes values) = .ok values.length := by
    rw [dvecBytes_eq]
    exact readHeader_header (by omega) _
  unfold inspectOpenDvec referenceOf
  simp only [bind_ok, failIf_ok, checkedAdd_ok, checkedMul_ok, pure_ok, ne_eq, not_not]
  refine ⟨_, hstored.verified, _, hstored.content, _, hcount, _, ⟨by omega, rfl⟩, _, ⟨hfits, rfl⟩,
    (), size_dvecBytes values, ?_⟩
  rcases hstored.named with hnone | ⟨hsome, -⟩
  · refine ⟨none, hnone, (), ?_, rfl⟩
    intro hboth
    cases hboth.1
  · refine ⟨_, hsome, (), ?_, rfl⟩
    intro hboth
    exact hboth.2 rfl

lemma open_of_stored (h : DvecValues values) (hstored : DvecStored root fs path values) :
    openReader root fs (referenceOf path values) =
      .ok ⟨referenceOf path values, payload values, 0, form.header values.length⟩ := by
  have hfits := h.fits
  have hverified : verifiedDeltaReferenceOpen root fs (referenceOf path values) =
      .ok (referenceOf path values, dvecBytes values) := by
    have hinspect := inspect_of_stored h hstored
    unfold verifiedDeltaReferenceOpen
    show (do let _ ← inspectOpenDvec root fs path; _) = _
    simp only [hinspect, bind_ok, failIf_ok, pure_ok, ok_bind]
    refine ⟨(), ?_, ?_⟩
    · intro hdiffers
      rcases hdiffers with hsha | hcount
      · exact hsha rfl
      · exact hcount rfl
    rcases hstored.named with hnone | ⟨hsome, hpath⟩
    · refine ⟨none, hnone, (), ?_, trivial⟩
      intro hboth
      cases hboth.1
    · refine ⟨_, hsome, (), ?_, trivial⟩
      intro hboth
      exact hboth.2 (congrArg Path.components hpath)
  unfold openReader
  simp only [hverified, ok_bind, bind_ok, failIf_ok, pure_ok, Prod.exists]
  refine ⟨form.header values.length, payload values,
    readExact_ok.mpr ⟨size_header _, dvecBytes_eq values⟩, values.length, ?_, (),
    fun hne => hne rfl, rfl⟩
  have hread : readHeader (form.header values.length ++ empty) = .ok values.length :=
    readHeader_header (by omega) empty
  rw [append_empty] at hread
  exact hread

def readerAt (path : String) (values : List F32) : VerifiedDvecReader :=
  ⟨referenceOf path values, payload values, 0, form.header values.length⟩

def readerEnd (path : String) (values : List F32) : VerifiedDvecReader :=
  ⟨referenceOf path values, ByteArray.empty, values.length, dvecBytes values⟩

lemma handed_all (path : String) (h : DvecValues values) :
    Handed (readerAt path values) values (readerEnd path values) := by
  refine ⟨h.finite, ?_, rfl, ?_, dvecBytes_eq values⟩
  · exact (append_empty).symm
  · exact (Nat.zero_add _).symm

lemma finish_end (path : String) (values : List F32) :
    (readerEnd path values).finish = .ok () := by
  unfold VerifiedDvecReader.finish
  simp only [bind_ok, failIf_ok]
  exact ⟨(), fun hne => hne rfl, (), fun hne => hne rfl, fun hne => hne rfl⟩

lemma read_of_stored (h : DvecValues values) (hstored : DvecStored root fs path values) :
    readDvecF32 root fs (referenceOf path values) = .ok values := by
  unfold readDvecF32
  simp only [open_of_stored h hstored, ok_bind, bind_ok, pure_ok, Prod.exists]
  refine ⟨values, readerEnd path values, ?_, (), finish_end path values, rfl⟩
  exact (readRest_ok (r := readerAt path values) (Nat.le_of_eq (Nat.zero_add _))).mpr
    ⟨rfl, handed_all path h⟩

/-! ## What is read back is stored -/

def Holds (root : String) (fs : PrivateRoot) (reference : DeltaArtifactRef) (bytes : ByteArray) :
    Prop :=
  ∃ confined, verifiedDvecPathUnderRoot root reference.path = .ok confined ∧
    fs.content confined = .ok bytes

structure Opened (root : String) (fs : PrivateRoot) (reference : DeltaArtifactRef)
    (r : VerifiedDvecReader) : Prop where
  same : r.reference.sha256 = reference.sha256 ∧
    r.reference.parameterCount = reference.parameterCount
  file : Holds root fs reference (form.header reference.parameterCount ++ r.rest)
  digest : digestBytes (form.header reference.parameterCount ++ r.rest) =
    reference.sha256
  next : r.nextParameter = 0
  consumed : r.consumed = form.header reference.parameterCount
  size : r.rest.size = reference.parameterCount * 4
  fits : CountedForm.headerBytes + reference.parameterCount * 4 < u64Values

structure Inspected (root : String) (fs : PrivateRoot) (path : String)
    (inspected : DeltaArtifactRef) (bytes : ByteArray) : Prop where
  file : ∃ confined, verifiedDvecPathUnderRoot root path = .ok confined ∧
    fs.content confined = .ok bytes
  reference : inspected.path = path ∧ inspected.sha256 = digestBytes bytes
  counted : readHeader bytes = .ok inspected.parameterCount
  size : bytes.size = CountedForm.headerBytes + inspected.parameterCount * 4
  fits : CountedForm.headerBytes + inspected.parameterCount * 4 < u64Values

lemma inspectOpenDvec_ok {inspected : DeltaArtifactRef} {bytes : ByteArray}
    (h : inspectOpenDvec root fs path = .ok (inspected, bytes)) :
    Inspected root fs path inspected bytes := by
  unfold inspectOpenDvec at h
  simp only [bind_ok, failIf_ok, checkedAdd_ok, checkedMul_ok, pure_ok, ne_eq, not_not] at h
  obtain ⟨confined, hconfined, content, hcontent, count, hcount, _, ⟨-, rfl⟩, _, ⟨hfits, rfl⟩, _,
    hsize, named, -, _, -, hpair⟩ := h
  cases hpair
  exact ⟨⟨confined, hconfined, hcontent⟩, ⟨rfl, rfl⟩, hcount, hsize, hfits⟩

lemma openReader_ok {r : VerifiedDvecReader} (h : openReader root fs reference = .ok r) :
    Opened root fs reference r := by
  unfold openReader verifiedDeltaReferenceOpen at h
  simp only [bind_ok, failIf_ok, pure_ok, ne_eq, not_not, not_or, Prod.exists] at h
  obtain ⟨inspected, bytes, ⟨inspected', bytes', hinspect, _, ⟨hsha, hparams⟩, named, -, _, -,
    hpair⟩, header, rest, hread, count', hcount', _, hagree, rfl⟩ := h
  cases hpair
  have hfile := inspectOpenDvec_ok hinspect
  obtain ⟨hheader, hbytes⟩ := readExact_ok.mp hread
  have hself : header = form.header inspected.parameterCount :=
    header_of_readHeader hfile.counted hheader hbytes
  have hsize := hfile.size
  have hfits := hfile.fits
  have hholds := hfile.file
  have hdigest := hfile.reference.2
  rw [hparams] at hself hfits hsize
  rw [hself] at hbytes
  have hrest : rest.size = reference.parameterCount * 4 := by
    have htotal := congrArg size hbytes
    rw [size_append, size_header] at htotal
    omega
  rw [hbytes] at hholds hdigest
  exact ⟨⟨hsha, hparams⟩, hholds, hdigest.symm.trans hsha, rfl, hself, hrest, hfits⟩

/-- A reference names the delta of some finite values. -/
structure DeltaOf (root : String) (fs : PrivateRoot) (reference : DeltaArtifactRef)
    (values : List F32) : Prop where
  holds : Holds root fs reference (dvecBytes values)
  finite : ∀ x ∈ values, x.isFinite = true
  count : values.length = reference.parameterCount
  digest : digestBytes (dvecBytes values) = reference.sha256

/-- What finishes after a read of all values was the delta of them. -/
lemma stored_of_finish {r r' : VerifiedDvecReader} (hopened : Opened root fs reference r)
    (hhanded : Handed r values r') (hfinish : r'.finish = .ok ()) :
    DeltaOf root fs reference values := by
  unfold VerifiedDvecReader.finish at hfinish
  simp only [bind_ok, failIf_ok, ne_eq, not_not] at hfinish
  obtain ⟨_, hcount, _, hempty, -⟩ := hfinish
  have hlength : values.length = reference.parameterCount := by
    rw [hhanded.reference, hopened.same.2, hhanded.next, hopened.next, Nat.zero_add] at hcount
    exact hcount
  have hrest : r.rest = payload values := by
    have hnone : r'.rest = empty := size_eq_zero_iff.mp hempty
    rw [hhanded.rest, hnone, append_empty]
  have hbytes : form.header reference.parameterCount ++ r.rest = dvecBytes values := by
    rw [hrest, dvecBytes_eq, hlength]
  have hfile := hopened.file
  have hdigest := hopened.digest
  rw [hbytes] at hfile hdigest
  exact ⟨hfile, hhanded.finite, hlength, hdigest⟩

lemma stored_of_read (h : readDvecF32 root fs reference = .ok values) :
    DeltaOf root fs reference values := by
  unfold readDvecF32 at h
  simp only [bind_ok, pure_ok, Prod.exists] at h
  obtain ⟨r, hopen, xs, r', hread, _, hfinish, rfl⟩ := h
  have hopened := openReader_ok hopen
  have hstop : r.nextParameter + (r.reference.parameterCount - r.nextParameter) ≤
      r.reference.parameterCount := by
    rw [hopened.next]
    omega
  obtain ⟨-, hhanded⟩ := (readRest_ok hstop).mp hread
  exact stored_of_finish hopened hhanded hfinish

/-- Chunks of any sizes that add up read what a read value by value does. -/
lemma readByChunks_iff {lens : List Nat} (hpos : ∀ len ∈ lens, 0 < len)
    (hsum : lens.sum = reference.parameterCount) :
    readDvecByChunks root fs reference lens = .ok values ↔
      readDvecF32 root fs reference = .ok values := by
  unfold readDvecByChunks readDvecF32
  simp only [bind_ok, pure_ok, Prod.exists]
  refine exists_congr ?_
  intro r
  refine and_congr_right ?_
  intro hopen
  have hopened := openReader_ok hopen
  have hcount := hopened.same.2
  have hnext := hopened.next
  refine exists_congr ?_
  intro xs
  refine exists_congr ?_
  intro r'
  refine and_congr_left ?_
  intro _
  rw [readChunks_ok hpos (by omega) (by rw [hcount]; exact hopened.fits),
    readRest_ok (by omega), hsum, hcount, hnext, Nat.sub_zero]

end

end Dvec

end Tidex
