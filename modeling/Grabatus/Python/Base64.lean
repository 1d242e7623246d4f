import Grabatus.Python.Str

/-!
# Python's `base64`

`b64encode`, and `b64decode` with `validate=True`: the decoder reads one letter at a time,
knowing how many letters of the current group of four it has seen (`quad`), the bits it still
holds (`left`), the padding letters of the group (`pads`) and whether padding has begun
(`padded`). An error is its message.

Out of scope: the alternative alphabets and the lenient mode, which the package does not use.
-/

namespace Grabatus.Python

/-- The alphabet. -/
def base64Alphabet : List Char :=
  "ABCDEFGHIJKLMNOPQRSTUVWXYZabcdefghijklmnopqrstuvwxyz0123456789+/".toList

/-- The letter for six bits. -/
def base64Letter (n : Nat) : Char := base64Alphabet.getD n 'A'

/-- The six bits of a letter. -/
def base64Value (c : Char) : Option Nat := base64Alphabet.idxOf? c

/-- One group of up to three bytes, padded to four letters. -/
def base64Groups : List UInt8 → List Char
  | [] => []
  | [a] =>
    [base64Letter (a.toNat / 4), base64Letter (a.toNat % 4 * 16), '=', '=']
  | [a, b] =>
    [base64Letter (a.toNat / 4), base64Letter (a.toNat % 4 * 16 + b.toNat / 16),
      base64Letter (b.toNat % 16 * 4), '=']
  | a :: b :: c :: rest =>
    base64Letter (a.toNat / 4) :: base64Letter (a.toNat % 4 * 16 + b.toNat / 16) ::
      base64Letter (b.toNat % 16 * 4 + c.toNat / 64) :: base64Letter (c.toNat % 64) ::
        base64Groups rest

/-- `b64encode(b).decode("ascii")`. -/
def b64encode (b : Bytes) : String := String.ofList (base64Groups b.toList)

/-- The strict loop of `a2b_base64`; `written` counts the bytes before this letter. -/
def a2bBase64 : Nat → Nat → Nat → Bool → Nat → List Char → Except String (List UInt8)
  | quad, _, _, _, written, [] =>
    if quad = 0 then .ok []
    else if quad = 1 then
      .error ("Invalid base64-encoded string: number of data characters (" ++
        toString (written / 3 * 4 + 1) ++ ") cannot be 1 more than a multiple of 4")
    else .error "Incorrect padding"
  | quad, left, pads, padded, written, c :: rest =>
    if c = '=' then
      if 2 ≤ quad ∧ 4 ≤ quad + (pads + 1) then
        if rest = [] then .ok [] else .error "Excess data after padding"
      else a2bBase64 quad left (if 2 ≤ quad then pads + 1 else pads) true written rest
    else match base64Value c with
      | none => .error "Only base64 data is allowed"
      | some v =>
        if padded then .error "Discontinuous padding not allowed"
        else match quad with
          | 0 => a2bBase64 1 v 0 padded written rest
          | 1 => (UInt8.ofNat (left * 4 + v / 16) :: ·) <$>
              a2bBase64 2 (v % 16) 0 padded (written + 1) rest
          | 2 => (UInt8.ofNat (left * 16 + v / 4) :: ·) <$>
              a2bBase64 3 (v % 4) 0 padded (written + 1) rest
          | _ => (UInt8.ofNat (left * 64 + v) :: ·) <$>
              a2bBase64 0 0 0 padded (written + 1) rest

/-- `b64decode(s, validate=True)`. -/
def b64decode (s : String) : Except String Bytes :=
  if !isAsciiStr s then .error "string argument should contain only ASCII characters"
  else if s.toList.head? = some '=' then .error "Leading padding not allowed"
  else (fun bytes => ⟨bytes.toArray⟩) <$> a2bBase64 0 0 0 false 0 s.toList

example : (b64decode "YWI=").toOption = some (encodeUtf8 "ab") := by decide

/-! ## The decoder undoes the encoder -/

theorem base64Value_letter : ∀ n : Fin 64, base64Value (base64Letter n.val) = some n.val := by
  decide +kernel

/-- A character the encoder writes: a letter, a digit, `+`, `/` or the padding. -/
def isBase64Char (c : Char) : Bool := c.isAlphanum || c == '+' || c == '/' || c == '='

theorem isBase64Char_letter : ∀ n : Fin 64,
    base64Letter n.val ≠ '=' ∧ isBase64Char (base64Letter n.val) = true := by decide +kernel

section

variable {n left pads written : Nat} {rest : List Char}

/-- A letter of the loop, before any padding. -/
theorem a2bBase64_letter (hn : n < 64) (quad : Nat) :
    a2bBase64 quad left pads false written (base64Letter n :: rest) =
      match quad with
      | 0 => a2bBase64 1 n 0 false written rest
      | 1 => (UInt8.ofNat (left * 4 + n / 16) :: ·) <$>
          a2bBase64 2 (n % 16) 0 false (written + 1) rest
      | 2 => (UInt8.ofNat (left * 16 + n / 4) :: ·) <$>
          a2bBase64 3 (n % 4) 0 false (written + 1) rest
      | _ => (UInt8.ofNat (left * 64 + n) :: ·) <$>
          a2bBase64 0 0 0 false (written + 1) rest := by
  have hvalue := base64Value_letter ⟨n, hn⟩
  have hpad := (isBase64Char_letter ⟨n, hn⟩).1
  simp only at hvalue hpad
  rw [a2bBase64, if_neg hpad, hvalue]
  rfl

theorem a2bBase64_first (hn : n < 64) :
    a2bBase64 0 left pads false written (base64Letter n :: rest) =
      a2bBase64 1 n 0 false written rest := a2bBase64_letter hn 0

theorem a2bBase64_second {b : UInt8} (hn : n < 64) (hb : left * 4 + n / 16 = b.toNat) :
    a2bBase64 1 left pads false written (base64Letter n :: rest) =
      (b :: ·) <$> a2bBase64 2 (n % 16) 0 false (written + 1) rest := by
  rw [← UInt8.ofNat_toNat (x := b), ← hb]
  exact a2bBase64_letter hn 1

theorem a2bBase64_third {b : UInt8} (hn : n < 64) (hb : left * 16 + n / 4 = b.toNat) :
    a2bBase64 2 left pads false written (base64Letter n :: rest) =
      (b :: ·) <$> a2bBase64 3 (n % 4) 0 false (written + 1) rest := by
  rw [← UInt8.ofNat_toNat (x := b), ← hb]
  exact a2bBase64_letter hn 2

theorem a2bBase64_fourth {b : UInt8} (hn : n < 64) (hb : left * 64 + n = b.toNat) :
    a2bBase64 3 left pads false written (base64Letter n :: rest) =
      (b :: ·) <$> a2bBase64 0 0 0 false (written + 1) rest := by
  rw [← UInt8.ofNat_toNat (x := b), ← hb]
  exact a2bBase64_letter hn 3

end

/-- **The loop reads back the groups**, one group of up to three bytes at a time. -/
theorem a2bBase64_groups : ∀ (bs : List UInt8) (written : Nat),
    a2bBase64 0 0 0 false written (base64Groups bs) = .ok bs
  | [], _ => rfl
  | [a], _ => by
    have ha := a.toNat_lt
    rw [base64Groups, a2bBase64_first (by omega), a2bBase64_second (b := a) (by omega) (by omega)]
    rfl
  | [a, b], _ => by
    have ha := a.toNat_lt
    have hb := b.toNat_lt
    rw [base64Groups, a2bBase64_first (by omega), a2bBase64_second (b := a) (by omega) (by omega),
      a2bBase64_third (b := b) (by omega) (by omega)]
    rfl
  | a :: b :: c :: rest, _ => by
    have ha := a.toNat_lt
    have hb := b.toNat_lt
    have hc := c.toNat_lt
    rw [base64Groups, a2bBase64_first (by omega), a2bBase64_second (b := a) (by omega) (by omega),
      a2bBase64_third (b := b) (by omega) (by omega),
      a2bBase64_fourth (b := c) (by omega) (by omega), a2bBase64_groups rest]
    rfl

theorem isBase64Char_of_mem_groups : ∀ {bs : List UInt8}, ∀ c ∈ base64Groups bs,
    isBase64Char c = true := by
  have hletter : ∀ {n : Nat}, n < 64 → isBase64Char (base64Letter n) = true := fun hn =>
    (isBase64Char_letter ⟨_, hn⟩).2
  intro bs
  induction bs using base64Groups.induct with
  | case1 => simp [base64Groups]
  | case2 a =>
    have ha := a.toNat_lt
    simp only [base64Groups, List.forall_mem_cons]
    exact ⟨hletter (by omega), hletter (by omega), by decide, by decide, by simp⟩
  | case3 a b =>
    have ha := a.toNat_lt
    have hb := b.toNat_lt
    simp only [base64Groups, List.forall_mem_cons]
    exact ⟨hletter (by omega), hletter (by omega), hletter (by omega), by decide, by simp⟩
  | case4 a b c rest ih =>
    have ha := a.toNat_lt
    have hb := b.toNat_lt
    have hc := c.toNat_lt
    simp only [base64Groups, List.forall_mem_cons]
    exact ⟨hletter (by omega), hletter (by omega), hletter (by omega), hletter (by omega), ih⟩

theorem head_base64Groups (bs : List UInt8) : (base64Groups bs).head? ≠ some '=' := by
  have hletter : ∀ {n : Nat}, n < 64 → base64Letter n ≠ '=' := fun hn =>
    (isBase64Char_letter ⟨_, hn⟩).1
  have hlt : ∀ a : UInt8, a.toNat / 4 < 64 := fun a => by
    have ha := a.toNat_lt
    omega
  cases bs using base64Groups.fun_cases <;> simp [base64Groups, hletter (hlt _)]

theorem isAscii_of_isBase64Char {c : Char} (h : isBase64Char c = true) : isAscii c = true := by
  simp only [isBase64Char, Bool.or_eq_true, beq_iff_eq] at h
  rcases h with ((h | rfl) | rfl) | rfl
  · exact isAscii_of_isAlphanum h
  · decide
  · decide
  · decide

/-- The bytes of a list, read back. -/
theorem toList_loop_eq (b : ByteArray) : ∀ (left i : Nat) (acc : List UInt8), b.size ≤ i + left →
    ByteArray.toList.loop b i acc = acc.reverse ++ b.data.toList.drop i
  | 0, i, acc, h => by
    rw [ByteArray.toList.loop, if_neg (by omega),
      List.drop_of_length_le (show b.data.toList.length ≤ i from h), List.append_nil]
  | left + 1, i, acc, h => by
    rw [ByteArray.toList.loop]
    by_cases hi : i < b.size
    · have hdrop : b.data.toList.drop i = b.get! i :: b.data.toList.drop (i + 1) := by
        rw [List.drop_eq_getElem_cons (show i < b.data.toList.length from hi)]
        congr 1
        exact (getElem!_pos b.data i hi).symm
      rw [if_pos hi, toList_loop_eq b left (i + 1) _ (by omega), hdrop, List.reverse_cons,
        List.append_assoc, List.singleton_append]
    · rw [if_neg hi, List.drop_of_length_le (by simpa using Nat.le_of_not_lt hi), List.append_nil]

theorem toArray_toList (b : Bytes) : (⟨b.toList.toArray⟩ : ByteArray) = b := by
  have hlist : b.toList = b.data.toList := toList_loop_eq b b.size 0 [] (by omega)
  rw [hlist]

/-- **`b64decode` undoes `b64encode`.** -/
theorem b64decode_b64encode (b : Bytes) : b64decode (b64encode b) = .ok b := by
  have hascii : isAsciiStr (b64encode b) = true := by
    unfold isAsciiStr b64encode
    rw [String.toList_ofList, List.all_eq_true]
    exact fun c hc => isAscii_of_isBase64Char (isBase64Char_of_mem_groups c hc)
  unfold b64decode
  rw [hascii]
  unfold b64encode
  rw [String.toList_ofList, if_neg (by simp), if_neg (head_base64Groups _), a2bBase64_groups]
  exact congrArg Except.ok (toArray_toList b)

theorem b64encode_inj {b b' : Bytes} (h : b64encode b = b64encode b') : b = b' :=
  Except.ok.inj ((b64decode_b64encode b).symm.trans (h ▸ b64decode_b64encode b'))

end Grabatus.Python
