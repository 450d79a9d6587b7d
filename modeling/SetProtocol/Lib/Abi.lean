import Mathlib.Data.List.Basic
import Mathlib.Tactic.NormNum

set_option relaxedAutoImplicit false
set_option autoImplicit false

/-!
# The contract ABI

Arguments of a call are encoded in a sequence of bytes. A static value stands where it is. A dynamic
one stands in the tail of the tuple or the array that it belongs to, and the head has its offset,
counted from where the tuple begins.

A codec has both directions of the translation of one type, and a proof that decoding gives back
what was encoded, whatever bytes follow. Tuples, arrays and structures of codecs are codecs. Their
bodies are described by a layout, which writes the heads and the tails of a tuple apart.

## Main definitions

* `Abi.toBytes`, `Abi.ofBytes` — big-endian numbers.
* `Abi.Codec` — the translation of a type.
* `Abi.Layout` — the heads and the tails of a tuple.
* `Abi.uint`, `Abi.bitVec`, `Abi.bool`, `Abi.fixedBytes`, `Abi.bytes`, `Abi.tuple`, `Abi.array` —
  the codecs.

## Main results

* `Abi.Codec.decode_encode_self` — what is encoded is decoded.

## Implementation notes

The law of a codec is one of its fields, and so is that of a layout: a codec of a compound type is
built with its proof. Decoding follows the offsets that it reads, and so accepts more than the
encoder writes.
-/

namespace Abi

/-- A sequence of bytes. -/
abbrev Data : Type := List UInt8

/-! ## Numbers -/

/-- The number in `k` bytes, the most significant one first. -/
def toBytes : ℕ → ℕ → Data
  | 0, _ => []
  | k + 1, n => toBytes k (n / 256) ++ [UInt8.ofNat n]

/-- The number that the bytes stand for. -/
def ofBytes (l : Data) : ℕ := l.foldl (fun n b => n * 256 + b.toNat) 0

@[simp] theorem length_toBytes (k n : ℕ) : (toBytes k n).length = k := by
  induction k generalizing n with
  | zero => rfl
  | succ k ih => rw [toBytes, List.length_append, ih, List.length_singleton]

@[simp] theorem ofBytes_append_singleton (l : Data) (b : UInt8) :
    ofBytes (l ++ [b]) = ofBytes l * 256 + b.toNat := by
  rw [ofBytes, List.foldl_append]
  rfl

/-- A number that fits is read back. -/
theorem ofBytes_toBytes {k n : ℕ} (h : n < 256 ^ k) : ofBytes (toBytes k n) = n := by
  induction k generalizing n with
  | zero =>
    rw [Nat.pow_zero, Nat.lt_one_iff] at h
    rw [h]
    rfl
  | succ k ih =>
    have hquotient : n / 256 < 256 ^ k := by
      apply Nat.div_lt_of_lt_mul
      rwa [Nat.mul_comm, ← Nat.pow_succ]
    rw [toBytes, ofBytes_append_singleton, ih hquotient, UInt8.toNat_ofNat']
    omega

/-- The first `k` bytes, and nothing where there are fewer. -/
def takeExactly (k : ℕ) (l : Data) : Option Data :=
  if k ≤ l.length then some (l.take k) else none

/-- The bytes in front are taken, whatever follows. -/
theorem takeExactly_append {k : ℕ} {l : Data} (h : l.length = k) (rest : Data) :
    takeExactly k (l ++ rest) = some l := by
  subst h
  rw [takeExactly, if_pos (by simp), List.take_left]

/-- The number in a word. -/
def readWord (l : Data) : Option ℕ := (takeExactly 32 l).map ofBytes

/-- A word is read back. -/
theorem readWord_append {n : ℕ} (h : n < 2 ^ 256) (rest : Data) :
    readWord (toBytes 32 n ++ rest) = some n := by
  have hpow : (2 : ℕ) ^ 256 = 256 ^ 32 := by norm_num
  rw [readWord, takeExactly_append (length_toBytes 32 n), Option.map_some,
    ofBytes_toBytes (hpow ▸ h)]

/-- The bound on offsets and lengths. -/
def maxLength : ℕ := 2 ^ 64 - 1

/-- An offset or a length. -/
def readLength (l : Data) : Option ℕ :=
  (readWord l).filter fun n => n ≤ maxLength

/-- Offsets and lengths within the bound are read back. -/
theorem readLength_append {n : ℕ} (h : n ≤ maxLength) (rest : Data) :
    readLength (toBytes 32 n ++ rest) = some n := by
  have hword : n < 2 ^ 256 := by
    unfold maxLength at h
    omega
  rw [readLength, readWord_append hword, Option.filter_some, if_pos (by simpa using h)]

/-! ## Codecs -/

/-- The translation of a type. -/
structure Codec (α : Type) where
  /-- Whether values stand in the tail. -/
  dynamic : Bool
  /-- The number of bytes in the head. -/
  size : ℕ
  /-- The values that are encoded. -/
  Valid : α → Prop
  /-- The bytes of a value. -/
  encode : α → Data
  /-- The value that the bytes begin with. -/
  decode : Data → Option α
  /-- Static values have the size of the head. -/
  length_encode : dynamic = false → ∀ a, Valid a → (encode a).length = size
  /-- The head of a dynamic value is an offset. -/
  size_eq : dynamic = true → size = 32
  /-- What was encoded is decoded, whatever follows. -/
  decode_encode : ∀ a rest, Valid a → decode (encode a ++ rest) = some a

/-- How the body of a tuple is laid out, the tails beginning at an offset. -/
structure Layout (α : Type) where
  /-- Whether there are tails. -/
  dynamic : Bool
  /-- The number of bytes of the heads. -/
  size : ℕ
  /-- The values that are encoded, with their tails beginning there. -/
  Valid : ℕ → α → Prop
  /-- The heads, for tails that begin there. -/
  heads : ℕ → α → Data
  /-- The tails. -/
  tails : α → Data
  /-- The values, from the body and from the heads that are left to read. -/
  decode : Data → Data → Option α
  /-- The heads have their size. -/
  length_heads : ∀ offset a, Valid offset a → (heads offset a).length = size
  /-- Static values have no tails. -/
  tails_eq : dynamic = false → ∀ a, tails a = []
  /-- What was laid out is decoded, in a body that has the tails where the heads say. -/
  decode_heads : ∀ offset a body more rest, Valid offset a → body.drop offset = tails a ++ rest →
    decode body (heads offset a ++ more) = some a

variable {α β : Type}

namespace Codec

variable {c : Codec α} {a : α}

/-- What is encoded is decoded. -/
theorem decode_encode_self (h : c.Valid a) : c.decode (c.encode a) = some a := by
  have hdecode := c.decode_encode a [] h
  rwa [List.append_nil] at hdecode

end Codec

/-! ## Static types -/

/-- Numbers below `2 ^ bits`, and what is stored as such. -/
def uint (bits : ℕ) : Codec ℕ where
  dynamic := false
  size := 32
  Valid n := n < 2 ^ bits ∧ n < 2 ^ 256
  encode n := toBytes 32 n
  decode l := (readWord l).filter fun n => n < 2 ^ bits
  length_encode _ n _ := length_toBytes 32 n
  size_eq h := absurd h Bool.false_ne_true
  decode_encode n rest h := by
    rw [readWord_append h.2, Option.filter_some, if_pos (by simpa using h.1)]

/-- Words of a fixed width, such as addresses. -/
def bitVec (w : ℕ) : Codec (BitVec w) where
  dynamic := false
  size := 32
  Valid _ := w ≤ 256
  encode a := toBytes 32 a.toNat
  decode l := ((readWord l).filter fun n => n < 2 ^ w).map (BitVec.ofNat w)
  length_encode _ a _ := length_toBytes 32 a.toNat
  size_eq h := absurd h Bool.false_ne_true
  decode_encode a rest h := by
    have hword : a.toNat < 2 ^ 256 := a.isLt.trans_le (Nat.pow_le_pow_right (by decide) h)
    rw [readWord_append hword, Option.filter_some, if_pos (by simpa using a.isLt), Option.map_some,
      BitVec.ofNat_toNat, BitVec.setWidth_eq]

/-- Truth values. -/
def bool : Codec Bool where
  dynamic := false
  size := 32
  Valid _ := True
  encode b := toBytes 32 b.toNat
  decode l := (readWord l).bind fun n => if n = 0 then some false else if n = 1 then some true
    else none
  length_encode _ b _ := length_toBytes 32 b.toNat
  size_eq h := absurd h Bool.false_ne_true
  decode_encode b rest _ := by
    cases b with
    | false =>
      rw [readWord_append (by norm_num)]
      rfl
    | true =>
      rw [readWord_append (by norm_num)]
      rfl

/-- A fixed number of bytes, at most that of a word, whose other bytes are zero. -/
def fixedBytes (k : ℕ) : Codec Data where
  dynamic := false
  size := 32
  Valid l := l.length = k ∧ k ≤ 32
  encode l := l ++ List.replicate (32 - k) 0
  decode l := (takeExactly 32 l).bind fun word =>
    if word.drop k = List.replicate (32 - k) 0 then some (word.take k) else none
  length_encode _ l h := by
    obtain ⟨hlength, hk⟩ := h
    rw [List.length_append, List.length_replicate, hlength]
    omega
  size_eq h := absurd h Bool.false_ne_true
  decode_encode l rest h := by
    obtain ⟨rfl, hk⟩ := h
    rw [takeExactly_append (by rw [List.length_append, List.length_replicate]; omega),
      Option.bind_some, List.drop_left, if_pos rfl, List.take_left]

/-! ## Layouts -/

namespace Layout

/-- No components. -/
def nil : Layout Unit where
  dynamic := false
  size := 0
  Valid _ _ := True
  heads _ _ := []
  tails _ := []
  decode _ _ := some ()
  length_heads _ _ _ := rfl
  tails_eq _ _ := rfl
  decode_heads _ _ _ _ _ _ _ := rfl

/-- A static component and others. -/
def consStatic (c : Codec α) (hc : c.dynamic = false) (s : Layout β) : Layout (α × β) where
  dynamic := s.dynamic
  size := c.size + s.size
  Valid offset p := c.Valid p.1 ∧ s.Valid offset p.2
  heads offset p := c.encode p.1 ++ s.heads offset p.2
  tails p := s.tails p.2
  decode body heads := do
    let a ← c.decode heads
    let b ← s.decode body (heads.drop c.size)
    return (a, b)
  length_heads offset p h := by
    rw [List.length_append, c.length_encode hc p.1 h.1, s.length_heads offset p.2 h.2]
  tails_eq hs p := s.tails_eq hs p.2
  decode_heads offset p body more rest h hbody := by
    have hfirst : c.decode (c.encode p.1 ++ (s.heads offset p.2 ++ more)) = some p.1 :=
      c.decode_encode p.1 _ h.1
    have hothers : s.decode body (s.heads offset p.2 ++ more) = some p.2 :=
      s.decode_heads offset p.2 body more rest h.2 hbody
    rw [List.append_assoc, hfirst, ← c.length_encode hc p.1 h.1, List.drop_left]
    simp only [hothers, Option.bind_eq_bind, Option.bind_some]
    rfl

/-- A dynamic component and others: the head is the offset, and the tail is the encoding. -/
def consDynamic (c : Codec α) (s : Layout β) : Layout (α × β) where
  dynamic := true
  size := 32 + s.size
  Valid offset p := c.Valid p.1 ∧ offset ≤ maxLength ∧
    s.Valid (offset + (c.encode p.1).length) p.2
  heads offset p := toBytes 32 offset ++ s.heads (offset + (c.encode p.1).length) p.2
  tails p := c.encode p.1 ++ s.tails p.2
  decode body heads := do
    let offset ← readLength heads
    let a ← c.decode (body.drop offset)
    let b ← s.decode body (heads.drop 32)
    return (a, b)
  length_heads offset p h := by
    rw [List.length_append, length_toBytes, s.length_heads _ p.2 h.2.2]
  tails_eq h := absurd h.symm Bool.false_ne_true
  decode_heads offset p body more rest h hbody := by
    obtain ⟨hvalid, hoffset, hothers⟩ := h
    rw [List.append_assoc] at hbody
    have hfirst : c.decode (body.drop offset) = some p.1 := by
      rw [hbody]
      exact c.decode_encode p.1 _ hvalid
    have htails : body.drop (offset + (c.encode p.1).length) = s.tails p.2 ++ rest := by
      rw [← List.drop_drop, hbody, List.drop_left]
    have hsecond := s.decode_heads _ p.2 body more rest hothers htails
    have hskip : (toBytes 32 offset ++ (s.heads (offset + (c.encode p.1).length) p.2 ++
        more)).drop 32 = s.heads (offset + (c.encode p.1).length) p.2 ++ more := by
      rw [List.drop_left' (length_toBytes 32 offset)]
    rw [List.append_assoc, readLength_append hoffset, hskip]
    simp only [hfirst, hsecond, Option.bind_eq_bind, Option.bind_some]
    rfl

/-- A component and others. -/
def cons (c : Codec α) (s : Layout β) : Layout (α × β) :=
  match hc : c.dynamic with
  | false => consStatic c hc s
  | true => consDynamic c s

/-- A tuple that begins with a static component is decoded from the heads, one after the other. -/
theorem decode_of_cons {c : Codec α} {s : Layout β} (hc : c.dynamic = false) {body heads : Data}
    {p : α × β} (h : (cons c s).decode body heads = some p) :
    c.decode heads = some p.1 ∧ s.decode body (heads.drop c.size) = some p.2 := by
  have hcons : cons c s = consStatic c hc s := by
    unfold cons
    split
    next => rfl
    next hdynamic => exact absurd (hc.symm.trans hdynamic) Bool.false_ne_true
  rw [hcons] at h
  simp only [consStatic, Option.bind_eq_bind, Option.bind_eq_some_iff] at h
  obtain ⟨a, ha, b, hb, hp⟩ := h
  obtain rfl := Option.some.inj hp
  exact ⟨ha, hb⟩

/-- One that begins with a dynamic component is decoded from where its head points to. -/
theorem decode_of_cons_dynamic {c : Codec α} {s : Layout β} (hc : c.dynamic = true)
    {body heads : Data} {p : α × β} (h : (cons c s).decode body heads = some p) :
    ∃ offset, readLength heads = some offset ∧ c.decode (body.drop offset) = some p.1 ∧
      s.decode body (heads.drop 32) = some p.2 := by
  have hcons : cons c s = consDynamic c s := by
    unfold cons
    split
    next hstatic => exact absurd (hstatic.symm.trans hc) Bool.false_ne_true
    next => rfl
  rw [hcons] at h
  simp only [consDynamic, Option.bind_eq_bind, Option.bind_eq_some_iff] at h
  obtain ⟨offset, hoffset, a, ha, b, hb, hp⟩ := h
  obtain rfl := Option.some.inj hp
  exact ⟨offset, hoffset, ha, hb⟩

/-- The layout of a type whose values are read as those of another type. -/
def imap (s : Layout α) (view : β → Option α) (of : α → β)
    (hof : ∀ b a, view b = some a → of a = b) : Layout β where
  dynamic := s.dynamic
  size := s.size
  Valid offset b := ∃ a, view b = some a ∧ s.Valid offset a
  heads offset b := ((view b).map (s.heads offset)).getD []
  tails b := ((view b).map s.tails).getD []
  decode body heads := (s.decode body heads).map of
  length_heads offset b h := by
    obtain ⟨a, ha, hvalid⟩ := h
    rw [ha]
    exact s.length_heads offset a hvalid
  tails_eq hs b := by
    cases hb : view b with
    | none => rfl
    | some a => exact s.tails_eq hs a
  decode_heads offset b body more rest h hbody := by
    obtain ⟨a, ha, hvalid⟩ := h
    rw [ha] at hbody ⊢
    have hdecode := s.decode_heads offset a body more rest hvalid hbody
    simp only [Option.map_some, Option.getD_some] at hdecode ⊢
    rw [hdecode, Option.map_some, hof b a ha]

/-- The layout of a structure with these components. -/
def ofFields (s : Layout α) (view : β → α) (of : α → β) (hof : ∀ b, of (view b) = b) : Layout β :=
  imap s (fun b => some (view b)) of fun b a h => by
    obtain rfl := Option.some.inj h
    exact hof b

/-- The components of two tuples in a row. -/
def append (s : Layout α) (t : Layout β) : Layout (α × β) where
  dynamic := s.dynamic || t.dynamic
  size := s.size + t.size
  Valid offset p := s.Valid offset p.1 ∧ t.Valid (offset + (s.tails p.1).length) p.2
  heads offset p := s.heads offset p.1 ++ t.heads (offset + (s.tails p.1).length) p.2
  tails p := s.tails p.1 ++ t.tails p.2
  decode body heads := do
    let a ← s.decode body heads
    let b ← t.decode body (heads.drop s.size)
    return (a, b)
  length_heads offset p h := by
    rw [List.length_append, s.length_heads offset p.1 h.1, t.length_heads _ p.2 h.2]
  tails_eq h p := by
    obtain ⟨hs, ht⟩ := Bool.or_eq_false_iff.mp h
    rw [s.tails_eq hs, t.tails_eq ht]
    rfl
  decode_heads offset p body more rest h hbody := by
    rw [List.append_assoc] at hbody
    have htails : body.drop (offset + (s.tails p.1).length) = t.tails p.2 ++ rest := by
      rw [← List.drop_drop, hbody, List.drop_left]
    have hfirst := s.decode_heads offset p.1 body
      (t.heads (offset + (s.tails p.1).length) p.2 ++ more) _ h.1 hbody
    have hsecond := t.decode_heads _ p.2 body more rest h.2 htails
    rw [List.append_assoc, hfirst, List.drop_left' (s.length_heads offset p.1 h.1)]
    simp only [hsecond, Option.bind_eq_bind, Option.bind_some]
    rfl

/-- Where a tuple is decoded, so are its first components, to the same values. -/
theorem decode_of_append {s : Layout α} {t : Layout β} {body heads : Data} {p : α × β}
    (h : (append s t).decode body heads = some p) : s.decode body heads = some p.1 := by
  simp only [append, Option.bind_eq_bind, Option.bind_eq_some_iff] at h
  obtain ⟨a, ha, b, -, hp⟩ := h
  obtain rfl := Option.some.inj hp
  exact ha

/-- Components of one type. -/
def rep (c : Codec α) : ℕ → Layout (List α)
  | 0 => imap nil (fun l => if l.isEmpty then some () else none) (fun _ => []) fun l _ h => by
    cases l with
    | nil => rfl
    | cons a l => exact absurd h (by simp)
  | n + 1 => imap (cons c (rep c n))
    (fun l => match l with
      | [] => none
      | a :: l => some (a, l))
    (fun p => p.1 :: p.2) fun l p h => by
      cases l with
      | nil => exact absurd h (by simp)
      | cons a l =>
        obtain rfl := Option.some.inj h
        rfl

/-- Static elements are valid wherever the tails begin. -/
theorem valid_rep {c : Codec α} (hc : c.dynamic = false) (hvalid : ∀ a, c.Valid a) (offset : ℕ)
    (l : List α) : (rep c l.length).Valid offset l := by
  induction l with
  | nil => exact ⟨(), rfl, trivial⟩
  | cons a l ih =>
    refine ⟨(a, l), rfl, ?_⟩
    unfold cons
    split
    next => exact ⟨hvalid a, ih⟩
    next hdynamic => exact absurd (hc.symm.trans hdynamic) Bool.false_ne_true

/-- As many elements are decoded as there are. -/
theorem length_of_rep {c : Codec α} {n : ℕ} {body heads : Data} {l : List α}
    (h : (rep c n).decode body heads = some l) : l.length = n := by
  induction n generalizing heads l with
  | zero =>
    simp only [rep, imap, Option.map_eq_some_iff] at h
    obtain ⟨_, -, rfl⟩ := h
    rfl
  | succ n ih =>
    simp only [rep, imap, Option.map_eq_some_iff] at h
    obtain ⟨⟨a, l⟩, hdecode, rfl⟩ := h
    rw [List.length_cons]
    cases hc : c.dynamic with
    | false => rw [ih (decode_of_cons hc hdecode).2]
    | true =>
      obtain ⟨_, -, -, htail⟩ := decode_of_cons_dynamic hc hdecode
      rw [ih htail]

end Layout

/-! ## Dynamic types -/

/-- A tuple, which is dynamic when a component is. -/
def tuple (s : Layout α) : Codec α where
  dynamic := s.dynamic
  size := if s.dynamic = true then 32 else s.size
  Valid a := s.Valid s.size a
  encode a := s.heads s.size a ++ s.tails a
  decode l := s.decode l l
  length_encode hs a h := by
    rw [List.length_append, s.tails_eq hs, s.length_heads s.size a h, hs]
    rfl
  size_eq hs := if_pos hs
  decode_encode a rest h := by
    have hbody : ((s.heads s.size a ++ s.tails a) ++ rest).drop s.size = s.tails a ++ rest := by
      rw [List.append_assoc, List.drop_left' (s.length_heads s.size a h)]
    have hdecode := s.decode_heads s.size a _ (s.tails a ++ rest) rest h hbody
    rwa [← List.append_assoc] at hdecode

/-- An array: its length, and its elements as those of a tuple. -/
def array (c : Codec α) : Codec (List α) where
  dynamic := true
  size := 32
  Valid l := l.length ≤ maxLength ∧ (tuple (Layout.rep c l.length)).Valid l
  encode l := toBytes 32 l.length ++ (tuple (Layout.rep c l.length)).encode l
  decode l := (readLength l).bind fun n => (tuple (Layout.rep c n)).decode (l.drop 32)
  length_encode h := absurd h.symm Bool.false_ne_true
  size_eq _ := rfl
  decode_encode l rest h := by
    rw [List.append_assoc, readLength_append h.1, Option.bind_some,
      List.drop_left' (length_toBytes 32 _)]
    exact (tuple (Layout.rep c l.length)).decode_encode l rest h.2

/-- An array of static elements that was decoded can be encoded. -/
theorem valid_of_decode_array {c : Codec α} (hc : c.dynamic = false) (hvalid : ∀ a, c.Valid a)
    {data : Data} {l : List α} (h : (array c).decode data = some l) : (array c).Valid l := by
  obtain ⟨n, hlength, hdecode⟩ := Option.bind_eq_some_iff.mp h
  obtain rfl := Layout.length_of_rep hdecode
  refine ⟨?_, Layout.valid_rep hc hvalid _ l⟩
  rw [readLength, Option.filter_eq_some_iff] at hlength
  exact of_decide_eq_true hlength.2

/-- Any number of bytes, filled with zeros to whole words. -/
def bytes : Codec Data where
  dynamic := true
  size := 32
  Valid l := l.length ≤ maxLength
  encode l := toBytes 32 l.length ++ (l ++ List.replicate ((32 - l.length % 32) % 32) 0)
  decode l := (readLength l).bind fun n => takeExactly n (l.drop 32)
  length_encode h := absurd h.symm Bool.false_ne_true
  size_eq _ := rfl
  decode_encode l rest h := by
    rw [List.append_assoc, readLength_append h, Option.bind_some,
      List.drop_left' (length_toBytes 32 _), List.append_assoc]
    exact takeExactly_append rfl _

end Abi
