import Mathlib.Data.Nat.Defs
import Mathlib.Algebra.Order.Group.Nat

namespace Termite

/-!
# The embedding wire format (`SerializeFloatArrays` / `DeserializeFloatArrays`)

A batch of float32 vectors is written as a little-endian `uint64` vector count, then — when
there is at least one vector — the first vector's length as a `uint64`, then every value as its
four little-endian bytes.  `binary.Write` of a `float32` writes `math.Float32bits`, and
`binary.Read` inverts it bit for bit, so a value is its 32-bit pattern here (`BitVec 32`).
Streams are byte lists; the writer is in memory and never fails.

* `putLE` / `getLE` — fixed-width little-endian numbers, `getLE_putLE` the one arithmetic fact.
* `deserializeFloatArrays_serialize` — for rectangular batches (all vectors as long as the
  first) decoding the encoding, followed by any bytes, gives the batch back and consumes
  exactly its bytes.
* `deserializeFloatArrays_ragged` — only the first length is written, so a ragged batch does
  not survive the round trip.
* `serializeFloatArrays_deserialize` — the other way round holds on the decoder's whole image:
  the bytes a successful decode consumed are the encoding of its result.
-/

/-- The `k` little-endian bytes of `n` modulo `256 ^ k` (`binary.LittleEndian.PutUint…`). -/
def putLE : Nat → Nat → List UInt8
  | 0, _ => []
  | k + 1, n => UInt8.ofNat (n % 256) :: putLE k (n / 256)

/-- The number little-endian bytes spell. -/
def getLE : List UInt8 → Nat
  | [] => 0
  | b :: bs => b.toNat + 256 * getLE bs

@[simp] theorem putLE_length (k n : Nat) : (putLE k n).length = k := by
  induction k generalizing n with
  | zero => rfl
  | succ k ih => simp [putLE, ih]

theorem getLE_putLE (k n : Nat) : getLE (putLE k n) = n % 256 ^ k := by
  induction k generalizing n with
  | zero => simp [putLE, getLE, Nat.mod_one]
  | succ k ih =>
    have hb : (UInt8.ofNat (n % 256)).toNat = n % 256 :=
      UInt8.toNat_ofNat_of_lt (Nat.mod_lt n (by decide))
    simp only [putLE, getLE, ih, hb]
    rw [pow_succ', Nat.mod_mul]

/-- A `float32`, as the bit pattern `binary.Write` puts on the wire. -/
abbrev Float32Bits := BitVec 32

/-- `binary.Write(w, binary.LittleEndian, val)` for a `float32`. -/
def putFloat32 (x : Float32Bits) : List UInt8 := putLE 4 x.toNat

/-- `SerializeFloatArrays(w, data)`: the count, the first vector's length, then the values. -/
def serializeFloatArrays (data : List (List Float32Bits)) : List UInt8 :=
  putLE 8 data.length ++
    (data.enum.flatMap fun iv =>
      (if iv.1 = 0 then putLE 8 iv.2.length else []) ++ iv.2.flatMap putFloat32)

/-- `io.ReadFull` of `n` bytes, as `binary.Read` calls it: `EOF` when the stream is empty,
    `unexpected EOF` when it ends early. -/
def readFull (n : Nat) (r : List UInt8) : Except String (List UInt8 × List UInt8) :=
  if n ≤ r.length then .ok (r.take n, r.drop n)
  else if r = [] then .error "EOF" else .error "unexpected EOF"

/-- `binary.Read` of a little-endian `uint64`. -/
def readUint64 (r : List UInt8) : Except String (Nat × List UInt8) :=
  (readFull 8 r).map fun p => (getLE p.1, p.2)

/-- `binary.Read` of a little-endian `float32`. -/
def readFloat32 (r : List UInt8) : Except String (Float32Bits × List UInt8) :=
  (readFull 4 r).map fun p => (BitVec.ofNat 32 (getLE p.1), p.2)

/-- The inner loop of `DeserializeFloatArrays`: `n` more values of vector `i`, from index `j`. -/
def readValues (i : Nat) : Nat → Nat → List UInt8 → Except String (List Float32Bits × List UInt8)
  | _, 0, r => .ok ([], r)
  | j, n + 1, r =>
    match readFloat32 r with
    | .error e => .error ("reading vector " ++ toString i ++ ", dimension " ++ toString j ++ ": " ++ e)
    | .ok (x, r) =>
      match readValues i (j + 1) n r with
      | .error e => .error e
      | .ok (xs, r) => .ok (x :: xs, r)

/-- The outer loop: `n` more vectors of `dimension` values, from index `i`. -/
def readVectors (dimension : Nat) : Nat → Nat → List UInt8 →
    Except String (List (List Float32Bits) × List UInt8)
  | _, 0, r => .ok ([], r)
  | i, n + 1, r =>
    match readValues i 0 dimension r with
    | .error e => .error e
    | .ok (v, r) =>
      match readVectors dimension (i + 1) n r with
      | .error e => .error e
      | .ok (vs, r) => .ok (v :: vs, r)

/-- `DeserializeFloatArrays(r)`: the vectors read and the bytes left unread. -/
def deserializeFloatArrays (r : List UInt8) : Except String (List (List Float32Bits) × List UInt8) :=
  match readUint64 r with
  | .error e => .error ("reading number of vectors: " ++ e)
  | .ok (numVectors, r) =>
    if numVectors = 0 then .ok ([], r)
    else
      match readUint64 r with
      | .error e => .error ("reading number of vectors: " ++ e)
      | .ok (dimension, r) => readVectors dimension 0 numVectors r

/-! ### The round trip -/

theorem readFull_append {n : Nat} {bs : List UInt8} (rest : List UInt8) (h : bs.length = n) :
    readFull n (bs ++ rest) = .ok (bs, rest) := by
  subst h; simp [readFull]

theorem readUint64_putLE {n : Nat} (rest : List UInt8) (h : n < 2 ^ 64) :
    readUint64 (putLE 8 n ++ rest) = .ok (n, rest) := by
  have hn : n % 256 ^ 8 = n := Nat.mod_eq_of_lt (by simpa using h)
  rw [readUint64, readFull_append rest (putLE_length 8 n)]
  simp only [Except.map, getLE_putLE, hn]

theorem readFloat32_putFloat32 (x : Float32Bits) (rest : List UInt8) :
    readFloat32 (putFloat32 x ++ rest) = .ok (x, rest) := by
  have hx : x.toNat % 256 ^ 4 = x.toNat := Nat.mod_eq_of_lt (by simpa using x.isLt)
  rw [readFloat32, putFloat32, readFull_append rest (putLE_length 4 x.toNat)]
  simp only [Except.map, getLE_putLE, hx, BitVec.ofNat_toNat, BitVec.setWidth_eq]

theorem readValues_put (i j : Nat) (v : List Float32Bits) (rest : List UInt8) :
    readValues i j v.length (v.flatMap putFloat32 ++ rest) = .ok (v, rest) := by
  induction v generalizing j with
  | nil => rfl
  | cons x xs ih => simp [readValues, List.append_assoc, readFloat32_putFloat32, ih]

theorem readVectors_put (d i : Nat) (data : List (List Float32Bits)) (rest : List UInt8)
    (h : ∀ v ∈ data, v.length = d) :
    readVectors d i data.length ((data.flatMap fun v => v.flatMap putFloat32) ++ rest) =
      .ok (data, rest) := by
  induction data generalizing i with
  | nil => rfl
  | cons v vs ih =>
    have hv : v.length = d := h v (by simp)
    subst hv
    simp [readVectors, List.append_assoc, readValues_put,
      ih (i + 1) fun w hw => h w (List.mem_cons_of_mem v hw)]

/-- Past the first vector no length is written. -/
theorem flatMap_enumFrom_succ (k : Nat) (l : List (List Float32Bits)) :
    ((l.enumFrom (k + 1)).flatMap fun iv =>
      (if iv.1 = 0 then putLE 8 iv.2.length else []) ++ iv.2.flatMap putFloat32) =
      l.flatMap fun v => v.flatMap putFloat32 := by
  induction l generalizing k with
  | nil => rfl
  | cons v vs ih => simp [List.enumFrom, ih]

theorem serializeFloatArrays_cons (v : List Float32Bits) (vs : List (List Float32Bits)) :
    serializeFloatArrays (v :: vs) =
      putLE 8 (vs.length + 1) ++ putLE 8 v.length ++ ((v :: vs).flatMap fun w => w.flatMap putFloat32) := by
  simp [serializeFloatArrays, List.enum, List.enumFrom, flatMap_enumFrom_succ]

/-- **Round trip for rectangular batches.** When every vector is as long as the first (and the
    counts fit a `uint64`, as every Go slice length does), decoding the encoding of `data`
    followed by any bytes returns `data` — same count, same lengths, same bit patterns, `[]` for
    no vectors — and leaves exactly the following bytes unread. -/
theorem deserializeFloatArrays_serialize (data : List (List Float32Bits)) (rest : List UInt8)
    (hcount : data.length < 2 ^ 64) (hrect : ∀ v ∈ data, v.length = (data.headD []).length)
    (hdim : (data.headD []).length < 2 ^ 64) :
    deserializeFloatArrays (serializeFloatArrays data ++ rest) = .ok (data, rest) := by
  cases data with
  | nil => simp [serializeFloatArrays, deserializeFloatArrays, readUint64_putLE]
  | cons v vs =>
    simp only [List.headD_cons] at hrect hdim
    rw [List.length_cons] at hcount
    rw [serializeFloatArrays_cons, List.append_assoc, List.append_assoc, deserializeFloatArrays,
      readUint64_putLE _ hcount]
    simp only [Nat.add_one_ne_zero, if_false]
    rw [readUint64_putLE _ hdim]
    exact readVectors_put v.length 0 (v :: vs) rest hrect

/-- The batch `[[1.0], [2.0]]`. -/
def rectangularBatch : List (List Float32Bits) :=
  [[BitVec.ofNat 32 0x3F800000], [BitVec.ofNat 32 0x40000000]]

theorem deserializeFloatArrays_serialize_rectangularBatch :
    rectangularBatch.length < 2 ^ 64 ∧
      (∀ v ∈ rectangularBatch, v.length = (rectangularBatch.headD []).length) ∧
      (rectangularBatch.headD []).length < 2 ^ 64 ∧
      deserializeFloatArrays (serializeFloatArrays rectangularBatch ++ []) = .ok (rectangularBatch, []) :=
  ⟨by decide, by decide, by decide,
    deserializeFloatArrays_serialize rectangularBatch [] (by decide) (by decide) (by decide)⟩

/-- The batch `[[], [1.0]]` (`1.0` is `0x3F800000`). -/
def raggedBatch : List (List Float32Bits) := [[], [BitVec.ofNat 32 0x3F800000]]

/-- It decodes as two empty vectors, with the four bytes of `1.0` left unread. -/
theorem deserializeFloatArrays_ragged :
    deserializeFloatArrays (serializeFloatArrays raggedBatch) =
        .ok ([[], []], putFloat32 (BitVec.ofNat 32 0x3F800000)) ∧
      ([[], []] : List (List Float32Bits)) ≠ raggedBatch := by
  refine ⟨rfl, by simp [raggedBatch]⟩

/-! ### Decoding, then encoding -/

/-- A list of `k` bytes spells a number below `256 ^ k`. -/
theorem getLE_lt (bs : List UInt8) : getLE bs < 256 ^ bs.length := by
  induction bs with
  | nil => simp [getLE]
  | cons b bs ih =>
    have hb : b.toNat < 256 := b.val.isLt
    simp only [getLE, List.length_cons, pow_succ']
    omega

/-- Writing back the number `k` bytes spell gives the bytes. -/
theorem putLE_getLE {bs : List UInt8} {k : Nat} (h : bs.length = k) : putLE k (getLE bs) = bs := by
  subst h
  induction bs with
  | nil => rfl
  | cons b bs ih =>
    have hb : b.toNat < 256 := b.val.isLt
    have h1 : (b.toNat + 256 * getLE bs) % 256 = b.toNat := by omega
    have h2 : (b.toNat + 256 * getLE bs) / 256 = getLE bs := by omega
    have h3 : UInt8.ofNat b.toNat = b := UInt8.toNat.inj (UInt8.toNat_ofNat_of_lt hb)
    simp only [List.length_cons, putLE, getLE, h1, h2, ih, h3]

theorem readFull_ok {n : Nat} {r bs rest : List UInt8} (h : readFull n r = .ok (bs, rest)) :
    r = bs ++ rest ∧ bs.length = n := by
  unfold readFull at h
  split at h
  · cases h; exact ⟨(List.take_append_drop n r).symm, by simpa⟩
  · split at h <;> cases h

theorem readUint64_ok {r rest : List UInt8} {n : Nat} (h : readUint64 r = .ok (n, rest)) :
    r = putLE 8 n ++ rest := by
  unfold readUint64 at h
  cases hf : readFull 8 r with
  | error e => simp [hf, Except.map] at h
  | ok p =>
    simp only [hf, Except.map, Except.ok.injEq, Prod.mk.injEq] at h
    obtain ⟨rfl, rfl⟩ := h
    obtain ⟨hr, hl⟩ := readFull_ok hf
    rw [putLE_getLE hl, ← hr]

theorem readFloat32_ok {r rest : List UInt8} {x : Float32Bits} (h : readFloat32 r = .ok (x, rest)) :
    r = putFloat32 x ++ rest := by
  unfold readFloat32 at h
  cases hf : readFull 4 r with
  | error e => simp [hf, Except.map] at h
  | ok p =>
    simp only [hf, Except.map, Except.ok.injEq, Prod.mk.injEq] at h
    obtain ⟨rfl, rfl⟩ := h
    obtain ⟨hr, hl⟩ := readFull_ok hf
    have hlt : getLE p.1 < 2 ^ 32 := by simpa [hl] using getLE_lt p.1
    rw [putFloat32, BitVec.toNat_ofNat, Nat.mod_eq_of_lt hlt, putLE_getLE hl, ← hr]

/-- The inner loop reads `n` values and consumes exactly their bytes. -/
theorem readValues_ok {i j n : Nat} {r rest : List UInt8} {xs : List Float32Bits}
    (h : readValues i j n r = .ok (xs, rest)) : r = xs.flatMap putFloat32 ++ rest ∧ xs.length = n := by
  induction n generalizing j r xs with
  | zero => cases h; exact ⟨rfl, rfl⟩
  | succ n ih =>
    unfold readValues at h
    cases h1 : readFloat32 r with
    | error e => simp [h1] at h
    | ok p =>
      obtain ⟨x, r'⟩ := p
      cases h2 : readValues i (j + 1) n r' with
      | error e => simp [h1, h2] at h
      | ok q =>
        obtain ⟨ys, r''⟩ := q
        simp only [h1, h2, Except.ok.injEq, Prod.mk.injEq] at h
        obtain ⟨rfl, rfl⟩ := h
        obtain ⟨hr', hl⟩ := ih h2
        exact ⟨by rw [readFloat32_ok h1, hr', List.flatMap_cons, List.append_assoc], by simp [hl]⟩

/-- The outer loop reads `n` vectors of `d` values and consumes exactly their bytes. -/
theorem readVectors_ok {d i n : Nat} {r rest : List UInt8} {vs : List (List Float32Bits)}
    (h : readVectors d i n r = .ok (vs, rest)) :
    r = (vs.flatMap fun v => v.flatMap putFloat32) ++ rest ∧ vs.length = n ∧ ∀ v ∈ vs, v.length = d := by
  induction n generalizing i r vs with
  | zero => cases h; exact ⟨rfl, rfl, by simp⟩
  | succ n ih =>
    unfold readVectors at h
    cases h1 : readValues i 0 d r with
    | error e => simp [h1] at h
    | ok p =>
      obtain ⟨v, r'⟩ := p
      cases h2 : readVectors d (i + 1) n r' with
      | error e => simp [h1, h2] at h
      | ok q =>
        obtain ⟨ws, r''⟩ := q
        simp only [h1, h2, Except.ok.injEq, Prod.mk.injEq] at h
        obtain ⟨rfl, rfl⟩ := h
        obtain ⟨hr, hl⟩ := readValues_ok h1
        obtain ⟨hr', hn, hd⟩ := ih h2
        refine ⟨by rw [hr, hr', List.flatMap_cons, List.append_assoc], by simp [hn], ?_⟩
        intro w hw
        rcases List.mem_cons.mp hw with rfl | hw
        · exact hl
        · exact hd w hw

/-- What `DeserializeFloatArrays` consumed is the encoding of what it returned. -/
theorem deserializeFloatArrays_ok {s rest : List UInt8} {v : List (List Float32Bits)}
    (h : deserializeFloatArrays s = .ok (v, rest)) : s = serializeFloatArrays v ++ rest := by
  unfold deserializeFloatArrays at h
  cases h1 : readUint64 s with
  | error e => simp [h1] at h
  | ok p =>
    obtain ⟨n, r⟩ := p
    rw [readUint64_ok h1]
    simp only [h1] at h
    split at h
    · cases h
      subst n
      rfl
    · cases h2 : readUint64 r with
      | error e => simp [h2] at h
      | ok q =>
        obtain ⟨d, r'⟩ := q
        simp only [h2] at h
        obtain ⟨hr', hn, hd⟩ := readVectors_ok h
        cases v with
        | nil => exact absurd hn.symm ‹_›
        | cons w ws =>
          rw [serializeFloatArrays_cons, readUint64_ok h2, hr', ← hn, hd w (List.mem_cons_self w ws)]
          simp

/-- **Encoding undoes decoding.** Whenever `DeserializeFloatArrays` succeeds — any count, any
    dimension, `0` included, any bit patterns — the bytes it consumed are exactly what
    `SerializeFloatArrays` writes for the batch it returned; hence the encoding is canonical: two
    accepted prefixes that decode to the same batch are equal. -/
theorem serializeFloatArrays_deserialize :
    (∀ s v rest, deserializeFloatArrays s = .ok (v, rest) → s = serializeFloatArrays v ++ rest) ∧
    (∀ p₁ p₂ r₁ r₂ v, deserializeFloatArrays (p₁ ++ r₁) = .ok (v, r₁) →
      deserializeFloatArrays (p₂ ++ r₂) = .ok (v, r₂) → p₁ = p₂) :=
  ⟨fun _ _ _ => deserializeFloatArrays_ok, fun _ _ _ _ _ h₁ h₂ =>
    (List.append_cancel_right (deserializeFloatArrays_ok h₁)).trans
      (List.append_cancel_right (deserializeFloatArrays_ok h₂)).symm⟩

/-- On the ragged batch's bytes: they are the encoding of the two empty vectors they decode to,
    followed by the four bytes left unread. -/
theorem serializeFloatArrays_deserialize_raggedBatch :
    deserializeFloatArrays (serializeFloatArrays raggedBatch) =
        .ok ([[], []], putFloat32 (BitVec.ofNat 32 0x3F800000)) ∧
      serializeFloatArrays raggedBatch =
        serializeFloatArrays [[], []] ++ putFloat32 (BitVec.ofNat 32 0x3F800000) :=
  have h : deserializeFloatArrays (serializeFloatArrays raggedBatch) =
      .ok ([[], []], putFloat32 (BitVec.ofNat 32 0x3F800000)) := rfl
  ⟨h, serializeFloatArrays_deserialize.1 _ _ _ h⟩

end Termite
