import Termite.Go.Strings

namespace Termite

open Termite.Go

/-!
# The CLIP text tokenizer (`CLIPTokenizer.Encode`)

`Encode` lowercases the text, splits it into words, and turns each word into ids: the word with
a leading space, else the word itself, else the ids of its characters the vocabulary knows.
The ids go between `BOS` and `EOS`; a sequence longer than `MaxLength` keeps its first
`MaxLength - 1` ids and a closing `EOS`, and a shorter one is padded, the attention mask marking
the real positions.  `embedText` builds the `input_ids` and `attention_mask` tensors of the
text model from the two lists with one shape.

* `CLIPTokenizer.encode_window` — for a window of at least two positions, on every text both
  lists have exactly `MaxLength` entries: `BOS`, the first `k - 2` ids of the token stream,
  `EOS`, then padding, with the mask `1^k 0^(MaxLength - k)` and `k - 2` the stream's length
  capped at `MaxLength - 2`.
* `CLIPTokenizer.encode_eq_none_iff` — the slice `inputIDs[:MaxLength-1]` panics exactly when
  `MaxLength < 1`.
* `loadCLIPTokenizer_maxLength` — a loaded tokenizer has the window of 77 positions.
-/

/-- `CLIPTokenizer`: the vocabulary and the special ids.  The merge rules are loaded but never
    read by `Encode`. -/
structure CLIPTokenizer where
  vocab : List (String × Int)
  maxLength : Int
  padTokenID : Int
  eosTokenID : Int
  bosTokenID : Int
  deriving DecidableEq, Repr

/-- An entry of `added_tokens` in `tokenizer.json`. -/
structure AddedToken where
  id : Int
  content : String
  deriving DecidableEq, Repr

/-- One round of the `added_tokens` loop of `loadCLIPTokenizer`. -/
def CLIPTokenizer.addSpecialToken (t : CLIPTokenizer) (token : AddedToken) : CLIPTokenizer :=
  if token.content = "<|endoftext|>" then { t with eosTokenID := token.id }
  else if token.content = "<|startoftext|>" then { t with bosTokenID := token.id }
  else t

/-- `loadCLIPTokenizer(modelPath)` once `tokenizer.json` is read and decoded. -/
def loadCLIPTokenizer (vocab : List (String × Int)) (addedTokens : List AddedToken) : CLIPTokenizer :=
  addedTokens.foldl CLIPTokenizer.addSpecialToken
    { vocab := vocab, maxLength := 77, padTokenID := 0, eosTokenID := 49407, bosTokenID := 49406 }

theorem foldl_addSpecialToken_maxLength (t : CLIPTokenizer) (tokens : List AddedToken) :
    (tokens.foldl CLIPTokenizer.addSpecialToken t).maxLength = t.maxLength := by
  induction tokens generalizing t with
  | nil => rfl
  | cons token tokens ih =>
    rw [List.foldl_cons, ih]
    unfold CLIPTokenizer.addSpecialToken
    split_ifs <;> rfl

/-- A loaded tokenizer has CLIP's window of 77 positions, whatever its added tokens. -/
theorem loadCLIPTokenizer_maxLength (vocab : List (String × Int)) (addedTokens : List AddedToken) :
    (loadCLIPTokenizer vocab addedTokens).maxLength = 77 :=
  foldl_addSpecialToken_maxLength _ addedTokens

/-! ### `Encode` -/

/-- The ids of one word: the word with a leading space, else the word, else each character the
    vocabulary has. -/
def wordIDs (vocab : List (String × Int)) (word : String) : List Int :=
  match vocab.lookup (" " ++ word) with
  | some id => [id]
  | none =>
    match vocab.lookup word with
    | some id => [id]
    | none => word.data.filterMap fun c => vocab.lookup (String.singleton c)

/-- The truncation of `Encode`: past `MaxLength` ids, the first `MaxLength - 1` and `EOS`;
    `none` is the panic of the slice when `MaxLength - 1` is negative. -/
def truncateIDs (maxLength eos : Int) (inputIDs : List Int) : Option (List Int) :=
  if (inputIDs.length : Int) > maxLength then
    if maxLength - 1 < 0 then none else some (inputIDs.take (maxLength - 1).toNat ++ [eos])
  else some inputIDs

/-- The padding loop of `Encode`, `for len(inputIDs) < t.MaxLength`, for at most `fuel` rounds. -/
def padLoop (maxLength pad : Int) : Nat → List Int → List Int → List Int × List Int
  | 0, inputIDs, attentionMask => (inputIDs, attentionMask)
  | fuel + 1, inputIDs, attentionMask =>
    if (inputIDs.length : Int) < maxLength then
      padLoop maxLength pad fuel (inputIDs ++ [pad]) (attentionMask ++ [0])
    else (inputIDs, attentionMask)

section Encode

variable (unicodeToLower : Char → Char)

/-- `(*CLIPTokenizer).Encode(text)`: the input ids and the attention mask.  The padding loop
    needs at most `MaxLength` rounds (`padLoop_eq`). -/
def CLIPTokenizer.encode (t : CLIPTokenizer) (text : String) : Option (List Int × List Int) :=
  let words := fields (toLower unicodeToLower text)
  let inputIDs := words.foldl (fun ids word => ids ++ wordIDs t.vocab word) [t.bosTokenID] ++ [t.eosTokenID]
  (truncateIDs t.maxLength t.eosTokenID inputIDs).map fun inputIDs =>
    padLoop t.maxLength t.padTokenID t.maxLength.toNat inputIDs (List.replicate inputIDs.length 1)

/-- The word- and character-level ids of the lowercased text, in order. -/
def CLIPTokenizer.tokenStream (t : CLIPTokenizer) (text : String) : List Int :=
  (fields (toLower unicodeToLower text)).flatMap (wordIDs t.vocab)

end Encode

/-! ### The three loops -/

/-- The word loop appends the stream to what it starts from. -/
theorem foldl_wordIDs (vocab : List (String × Int)) (words : List String) (acc : List Int) :
    words.foldl (fun ids word => ids ++ wordIDs vocab word) acc = acc ++ words.flatMap (wordIDs vocab) := by
  induction words generalizing acc with
  | nil => simp
  | cons word words ih => simp [ih]

/-- Truncating `BOS`, the stream and `EOS` to a window of `m ≥ 2` keeps the first `m - 2` ids of
    the stream between the two. -/
theorem truncateIDs_window {m : Nat} (hm : 2 ≤ m) (bos eos : Int) (stream : List Int) :
    truncateIDs m eos (bos :: stream ++ [eos]) = some (bos :: stream.take (m - 2) ++ [eos]) := by
  unfold truncateIDs
  simp only [List.cons_append, List.length_cons, List.length_append, List.length_singleton,
    List.length_nil]
  split_ifs with hlong hneg
  · omega
  · -- the stream overflows: `m - 1` ids are kept, `BOS` and `m - 2` of the stream
    have hk : (m - 1 : Int).toNat = m - 2 + 1 := by omega
    rw [hk, List.take_succ_cons, List.take_append_of_le_length (show m - 2 ≤ stream.length by omega)]
    rfl
  · -- the stream fits and is kept whole
    rw [List.take_of_length_le (show stream.length ≤ m - 2 by omega)]

/-- Enough rounds of the padding loop pad both lists to the window. -/
theorem padLoop_eq (maxLength pad : Int) (fuel : Nat) (inputIDs attentionMask : List Int)
    (hfuel : (maxLength - inputIDs.length).toNat ≤ fuel) :
    padLoop maxLength pad fuel inputIDs attentionMask =
      (inputIDs ++ List.replicate (maxLength - inputIDs.length).toNat pad,
        attentionMask ++ List.replicate (maxLength - inputIDs.length).toNat 0) := by
  induction fuel generalizing inputIDs attentionMask with
  | zero =>
    have : (maxLength - inputIDs.length).toNat = 0 := by omega
    simp [padLoop, this]
  | succ fuel ih =>
    unfold padLoop
    split_ifs with hlt
    · -- one more pad, and one fewer round to go
      have hn : (maxLength - inputIDs.length).toNat = (maxLength - (inputIDs ++ [pad]).length).toNat + 1 := by
        simp only [List.length_append, List.length_singleton]; omega
      rw [ih _ _ (by simp only [List.length_append, List.length_singleton]; omega),
        hn, List.replicate_succ, List.replicate_succ]
      simp
    · have : (maxLength - inputIDs.length).toNat = 0 := by omega
      simp [this]

/-- The padding loop pads both lists in step. -/
theorem padLoop_length_eq (maxLength pad : Int) (fuel : Nat) {inputIDs attentionMask : List Int}
    (h : inputIDs.length = attentionMask.length) :
    (padLoop maxLength pad fuel inputIDs attentionMask).1.length =
      (padLoop maxLength pad fuel inputIDs attentionMask).2.length := by
  induction fuel generalizing inputIDs attentionMask with
  | zero => exact h
  | succ fuel ih =>
    unfold padLoop
    split_ifs
    · exact ih (by simp [h])
    · exact h

section Encode

variable (unicodeToLower : Char → Char)

/-- Whenever `Encode` returns, the ids and the mask have one length. -/
theorem CLIPTokenizer.encode_length_eq {t : CLIPTokenizer} {text : String} {inputIDs attentionMask : List Int}
    (h : t.encode unicodeToLower text = some (inputIDs, attentionMask)) : attentionMask.length = inputIDs.length := by
  simp only [CLIPTokenizer.encode, Option.map_eq_some'] at h
  obtain ⟨ids, -, hpad⟩ := h
  have := padLoop_length_eq t.maxLength t.padTokenID t.maxLength.toNat (List.length_replicate ids.length 1).symm
  rw [hpad] at this
  exact this.symm

/-- `Encode` on a window of `m ≥ 2` positions: `BOS`, the first `m - 2` ids of the stream and
    `EOS`, padded to `m`, and as many ones in the mask as ids were kept. -/
theorem CLIPTokenizer.encode_eq (t : CLIPTokenizer) (text : String) {m : Nat} (hm : t.maxLength = m)
    (h2 : 2 ≤ m) :
    t.encode unicodeToLower text = some
      (t.bosTokenID :: (t.tokenStream unicodeToLower text).take (m - 2) ++ [t.eosTokenID] ++
          List.replicate (m - (min (t.tokenStream unicodeToLower text).length (m - 2) + 2)) t.padTokenID,
        List.replicate (min (t.tokenStream unicodeToLower text).length (m - 2) + 2) 1 ++
          List.replicate (m - (min (t.tokenStream unicodeToLower text).length (m - 2) + 2)) 0) := by
  have hkept : (t.bosTokenID :: (t.tokenStream unicodeToLower text).take (m - 2) ++ [t.eosTokenID]).length =
      min (t.tokenStream unicodeToLower text).length (m - 2) + 2 := by
    simp only [List.cons_append, List.length_cons, List.length_append, List.length_take,
      List.length_singleton, List.length_nil]
    omega
  simp only [CLIPTokenizer.encode, foldl_wordIDs, hm]
  rw [show [t.bosTokenID] ++ (fields (toLower unicodeToLower text)).flatMap (wordIDs t.vocab) ++
      [t.eosTokenID] = t.bosTokenID :: t.tokenStream unicodeToLower text ++ [t.eosTokenID] from rfl,
    truncateIDs_window h2, Option.map_some', padLoop_eq _ _ _ _ _ (by rw [hkept]; omega), hkept,
    Int.toNat_sub]

/-- **`Encode` fills the window.**  For a window of at least two positions and every text, the
    input ids and the attention mask both have exactly `MaxLength` entries; the mask is `k` ones
    then zeros, for `2 ≤ k ≤ MaxLength`; and the ids are `BOS`, the first `k - 2` ids of the
    token stream, `EOS`, then padding — `k - 2` being the stream's length capped at
    `MaxLength - 2`. -/
theorem CLIPTokenizer.encode_window (t : CLIPTokenizer) (text : String) (h : 2 ≤ t.maxLength) :
    ∃ inputIDs attentionMask, t.encode unicodeToLower text = some (inputIDs, attentionMask) ∧
      (inputIDs.length : Int) = t.maxLength ∧ (attentionMask.length : Int) = t.maxLength ∧
      ∃ k, 2 ≤ k ∧ k ≤ inputIDs.length ∧
        k - 2 = min (t.tokenStream unicodeToLower text).length (inputIDs.length - 2) ∧
        attentionMask = List.replicate k 1 ++ List.replicate (inputIDs.length - k) 0 ∧
        inputIDs = t.bosTokenID :: (t.tokenStream unicodeToLower text).take (k - 2) ++
          t.eosTokenID :: List.replicate (inputIDs.length - k) t.padTokenID := by
  obtain ⟨m, hm⟩ : ∃ m : Nat, t.maxLength = m := ⟨t.maxLength.toNat, by omega⟩
  have h2 : 2 ≤ m := by omega
  have henc := t.encode_eq unicodeToLower text hm h2
  set stream := t.tokenStream unicodeToLower text
  set k := min stream.length (m - 2) + 2 with hk
  have hids : (t.bosTokenID :: stream.take (m - 2) ++ [t.eosTokenID] ++
      List.replicate (m - k) t.padTokenID).length = m := by
    simp only [List.length_append, List.length_cons, List.length_take, List.length_singleton,
      List.length_replicate, List.length_nil]
    omega
  have hmask : (List.replicate k (1 : Int) ++ List.replicate (m - k) 0).length = m := by
    simp only [List.length_append, List.length_replicate]; omega
  refine ⟨_, _, henc, by rw [hids, hm], by rw [hmask, hm], k, by omega, by omega, by rw [hids]; omega,
    by rw [hids], ?_⟩
  -- past the stream's end, a longer prefix is the same prefix
  rw [hids, List.take_eq_take.mpr (show min (k - 2) stream.length = min (m - 2) stream.length by omega)]
  simp

end Encode

/-- A tokenizer loaded with a handful of CLIP's ids. -/
def photoTokenizer : CLIPTokenizer :=
  loadCLIPTokenizer [(" a", 320), (" photo", 1125), (" of", 539), ("c", 66), ("t", 83)]
    [⟨49406, "<|startoftext|>"⟩, ⟨49407, "<|endoftext|>"⟩]

theorem CLIPTokenizer.encode_window_photo :
    2 ≤ photoTokenizer.maxLength ∧
      ∃ inputIDs attentionMask,
        photoTokenizer.encode Char.toLower "A Photo of a CAT" = some (inputIDs, attentionMask) ∧
        (inputIDs.length : Int) = photoTokenizer.maxLength ∧
        (attentionMask.length : Int) = photoTokenizer.maxLength ∧
        ∃ k, 2 ≤ k ∧ k ≤ inputIDs.length ∧
          k - 2 = min (photoTokenizer.tokenStream Char.toLower "A Photo of a CAT").length
            (inputIDs.length - 2) ∧
          attentionMask = List.replicate k 1 ++ List.replicate (inputIDs.length - k) 0 ∧
          inputIDs = photoTokenizer.bosTokenID ::
            (photoTokenizer.tokenStream Char.toLower "A Photo of a CAT").take (k - 2) ++
            photoTokenizer.eosTokenID :: List.replicate (inputIDs.length - k) photoTokenizer.padTokenID :=
  ⟨by decide, CLIPTokenizer.encode_window Char.toLower photoTokenizer "A Photo of a CAT" (by decide)⟩

/- `cat` is neither a word nor a spaced word of the vocabulary: its characters `c` and `t` are. -/
example : photoTokenizer.tokenStream Char.toLower "A Photo of a CAT" = [320, 1125, 539, 320, 66, 83] := by
  decide

example : { photoTokenizer with maxLength := 4 }.encode Char.toLower "A Photo of a CAT" =
    some ([49406, 320, 1125, 49407], [1, 1, 1, 1]) := by decide

example : { photoTokenizer with maxLength := 5 }.encode Char.toLower "a" =
    some ([49406, 320, 49407, 0, 0], [1, 1, 1, 0, 0]) := by decide

section Encode

variable (unicodeToLower : Char → Char)

/-- The slice `inputIDs[:t.MaxLength-1]` panics exactly when the window is empty or negative:
    the ids always hold `BOS` and `EOS`, so they overflow such a window. -/
theorem CLIPTokenizer.encode_eq_none_iff (t : CLIPTokenizer) (text : String) :
    t.encode unicodeToLower text = none ↔ t.maxLength < 1 := by
  simp only [CLIPTokenizer.encode, Option.map_eq_none', truncateIDs, foldl_wordIDs]
  split_ifs with hlong hneg
  · exact iff_of_true rfl (by omega)
  · exact iff_of_false not_false (by omega)
  · -- the ids, `BOS` and `EOS` at least, fit the window
    simp only [List.length_append, List.length_singleton] at hlong
    exact iff_of_false not_false (by omega)

end Encode

end Termite
