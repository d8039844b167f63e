import VelesMining.Basic
import Mathlib.Data.Nat.Digits

/-!
# Hex and decimal text

The text helpers the mining RPCs print and read numbers with: `base_blob::GetHex` and
`SetHex` (`uint256.cpp`), `HexDigit`, `IsHex`, `i64tostr` and `atoi64`
(`utilstrencodings.cpp`), `std::to_string`, and `ParseHashV` (`rpc/util.cpp`). None of them is
in this slice of the source, so each is modelled on the upstream function it names. Strings are
read as lists of characters; every string these functions produce is ASCII, where bytes and
characters agree.

The rest of the project uses them only through three facts: decimal text reads back as its value
(`atoi64_i64tostr`), decimal text followed by a non-digit determines the number and what follows
(`decimalChars_append_inj`), and a hash's hex text passes `ParseHashV` and reads back as the hash
(`ParseHashV_GetHex`).
-/

namespace VelesMining

/-! ### Digits -/

/-- The value of digits read most significant first, the way `strtoll` and `SetHex` accumulate
them. -/
def accumulate (base : Nat) (ds : List Nat) : Nat := ds.foldl (fun acc d => base * acc + d) 0

theorem foldl_accumulate (base : Nat) (ds : List Nat) (a : Nat) :
    ds.foldl (fun acc d => base * acc + d) a = base ^ ds.length * a + accumulate base ds := by
  induction ds generalizing a with
  | nil => simp [accumulate]
  | cons d ds ih =>
    simp only [accumulate, List.foldl_cons] at ih ⊢
    rw [ih, ih (base * 0 + d), List.length_cons]; ring

@[simp] theorem accumulate_append (base : Nat) (ds es : List Nat) :
    accumulate base (ds ++ es) = base ^ es.length * accumulate base ds + accumulate base es := by
  rw [accumulate, List.foldl_append, foldl_accumulate]; rfl

theorem accumulate_reverse (base : Nat) (ds : List Nat) :
    accumulate base ds.reverse = Nat.ofDigits base ds := by
  induction ds with
  | nil => rfl
  | cons d ds ih =>
    rw [List.reverse_cons, accumulate_append, ih, Nat.ofDigits_cons]
    simp [accumulate]; ring

/-! ### Decimal -/

/-- The decimal digits `%d` prints for `n`, most significant first. -/
def decDigits (n : Nat) : List Nat := if n = 0 then [0] else (Nat.digits 10 n).reverse

theorem accumulate_decDigits (n : Nat) : accumulate 10 (decDigits n) = n := by
  unfold decDigits; split
  · subst n; rfl
  · rw [accumulate_reverse, Nat.ofDigits_digits]

theorem decDigits_lt (n : Nat) : ∀ d ∈ decDigits n, d < 10 := by
  unfold decDigits; split
  · simp
  · intro d hd; exact Nat.digits_lt_base (by norm_num) (List.mem_reverse.mp hd)

/-- The decimal text of a natural number. -/
def decimalChars (n : Nat) : List Char := (decDigits n).map Nat.digitChar

/-- Modelled from the spec: `i64tostr` (`utilstrencodings.cpp`, not in this slice),
`strprintf("%d", n)`. -/
def i64tostr (n : Int) : String := ⟨(if n < 0 then ['-'] else []) ++ decimalChars n.natAbs⟩

/-- Modelled from the spec: `std::to_string` of an `int`, the same text as `%d`. -/
def stdToString (n : Int) : String := i64tostr n

/-- Modelled from the spec: `isspace` in the C locale. -/
def isSpace (c : Char) : Bool :=
  c = ' ' || c = '\t' || c = '\n' || c = '\x0b' || c = '\x0c' || c = '\r'

/-- The digits at the front of `cs`, as numbers. -/
def leadingDigits (cs : List Char) : List Nat :=
  (cs.takeWhile Char.isDigit).map (fun c => c.toNat - '0'.toNat)

/-- Modelled from the spec: `atoi64` (`utilstrencodings.cpp`, not in this slice),
`strtoll(str, nullptr, 10)`. It skips leading space, reads an optional sign and
the digits after it, and saturates at the bounds of `int64_t`. -/
def atoi64 (s : String) : Int :=
  let cs := s.data.dropWhile isSpace
  let signed := cs.head? = some '-' ∨ cs.head? = some '+'
  let v : Int := accumulate 10 (leadingDigits (if signed then cs.tail else cs))
  max (-2 ^ 63) (min (if cs.head? = some '-' then -v else v) (2 ^ 63 - 1))

theorem digitChar_isDigit : ∀ d, d < 10 → (Nat.digitChar d).isDigit = true := by decide

theorem digitChar_not_sign : ∀ d, d < 16 →
    isSpace (Nat.digitChar d) = false ∧ Nat.digitChar d ≠ '-' ∧ Nat.digitChar d ≠ '+' := by
  decide

theorem digitChar_sub_zero : ∀ d, d < 10 → (Nat.digitChar d).toNat - '0'.toNat = d := by
  decide

theorem decimalChars_isDigit (n : Nat) : ∀ c ∈ decimalChars n, c.isDigit = true := by
  simp only [decimalChars, List.mem_map]
  rintro c ⟨d, hd, rfl⟩
  exact digitChar_isDigit d (decDigits_lt n d hd)

theorem leadingDigits_decimalChars (n : Nat) : leadingDigits (decimalChars n) = decDigits n := by
  rw [leadingDigits, List.takeWhile_eq_self_iff.mpr (decimalChars_isDigit n), decimalChars,
    List.map_map]
  conv_rhs => rw [← List.map_id (decDigits n)]
  exact List.map_congr_left fun d hd => digitChar_sub_zero d (decDigits_lt n d hd)

theorem decimalChars_eq_cons (n : Nat) : ∃ d ds, d < 10 ∧ decimalChars n = Nat.digitChar d :: ds := by
  have hlt := decDigits_lt n
  unfold decimalChars decDigits at *
  split
  · exact ⟨0, [], by norm_num, rfl⟩
  · rename_i hn
    obtain ⟨d, ds, hds⟩ := List.exists_cons_of_ne_nil
      (List.reverse_ne_nil_iff.mpr (Nat.digits_ne_nil_iff_ne_zero.mpr hn))
    rw [if_neg hn, hds] at hlt
    exact ⟨d, ds.map Nat.digitChar, hlt d (List.mem_cons_self _ _), by rw [hds]; rfl⟩

/-- Decimal text reads back as its value. -/
theorem atoi64_i64tostr (n : Int) (h1 : -2 ^ 63 ≤ n) (h2 : n < 2 ^ 63) :
    atoi64 (i64tostr n) = n := by
  obtain ⟨d, ds, hd, hchars⟩ := decimalChars_eq_cons n.natAbs
  obtain ⟨hsp, hneg, hpos⟩ := digitChar_not_sign d (by omega)
  have hv := accumulate_decDigits n.natAbs
  rw [← leadingDigits_decimalChars, hchars] at hv
  by_cases hn : n < 0
  · have habs : ((n.natAbs : Nat) : Int) = -n := Int.ofNat_natAbs_of_nonpos (by omega)
    simp [atoi64, i64tostr, hn, hchars, isSpace, hv, habs]; omega
  · have habs : ((n.natAbs : Nat) : Int) = n := Int.natAbs_of_nonneg (by omega)
    simp [atoi64, i64tostr, hn, hchars, hsp, hneg, hpos, hv, habs]; omega

theorem takeWhile_isDigit_decimalChars_append (n : Nat) (rest : List Char)
    (hrest : ∀ c ∈ rest.head?, c.isDigit = false) :
    (decimalChars n ++ rest).takeWhile Char.isDigit = decimalChars n := by
  rw [List.takeWhile_append_of_pos (decimalChars_isDigit n)]
  cases rest with
  | nil => simp
  | cons c cs => simp [List.takeWhile_cons, hrest c rfl]

theorem decimalChars_append_inj {a b : Nat} {r s : List Char}
    (hr : ∀ c ∈ r.head?, c.isDigit = false) (hs : ∀ c ∈ s.head?, c.isDigit = false)
    (h : decimalChars a ++ r = decimalChars b ++ s) : a = b ∧ r = s := by
  have hab : decimalChars a = decimalChars b := by
    rw [← takeWhile_isDigit_decimalChars_append a r hr, h,
      takeWhile_isDigit_decimalChars_append b s hs]
  refine ⟨?_, List.append_cancel_left (hab ▸ h)⟩
  rw [← accumulate_decDigits a, ← accumulate_decDigits b, ← leadingDigits_decimalChars,
    ← leadingDigits_decimalChars, hab]

/-! ### Hex -/

/-- The low `w` hex digits of `n`, most significant first. -/
def hexDigits : Nat → Nat → List Nat
  | 0, _ => []
  | w + 1, n => hexDigits w (n / 16) ++ [n % 16]

@[simp] theorem length_hexDigits (w n : Nat) : (hexDigits w n).length = w := by
  induction w generalizing n <;> simp [hexDigits, *]

theorem hexDigits_lt (w n : Nat) : ∀ d ∈ hexDigits w n, d < 16 := by
  induction w generalizing n with
  | zero => simp [hexDigits]
  | succ w ih =>
    simp only [hexDigits, List.mem_append, List.mem_singleton]
    rintro d (hd | rfl)
    exacts [ih _ d hd, Nat.mod_lt _ (by norm_num)]

theorem accumulate_hexDigits (w n : Nat) : accumulate 16 (hexDigits w n) = n % 16 ^ w := by
  induction w generalizing n with
  | zero => simp [hexDigits, accumulate, Nat.mod_one]
  | succ w ih =>
    rw [hexDigits, accumulate_append, ih, pow_succ', Nat.mod_mul]
    simp [accumulate]; ring

/-- Modelled from the spec: `base_blob::GetHex` (`uint256.cpp`, not in this slice), the 32
bytes from the last to the first, two lowercase hex digits each, which are the 64 hex digits of
the number, most significant first. -/
def GetHex (h : Uint256) : String := ⟨(hexDigits 64 h.toNat).map Nat.digitChar⟩

theorem length_GetHex (h : Uint256) : (GetHex h).length = 64 := by
  show ((hexDigits 64 h.toNat).map Nat.digitChar).length = 64
  simp only [List.length_map, length_hexDigits]

/-- Modelled from the spec: `HexDigit` (`utilstrencodings.cpp`), the value of a hex digit of
either case, `none` where the C++ returns `-1`. -/
def HexDigit (c : Char) : Option Nat :=
  if '0' ≤ c ∧ c ≤ '9' then some (c.toNat - '0'.toNat)
  else if 'a' ≤ c ∧ c ≤ 'f' then some (c.toNat - 'a'.toNat + 10)
  else if 'A' ≤ c ∧ c ≤ 'F' then some (c.toNat - 'A'.toNat + 10)
  else none

/-- Modelled from the spec: `IsHex` (`utilstrencodings.cpp`), a non-empty string of hex digits
of even length. -/
def IsHex (s : String) : Bool :=
  s.data.all (fun c => (HexDigit c).isSome) && 0 < s.length && s.length % 2 == 0

/-- Modelled from the spec: `base_blob::SetHex` (`uint256.cpp`): skip leading space and a `0x`,
take the hex digits that follow, and fill the bytes from the last digit backwards, at most 32 of
them; so the value of the last (up to) 64 digits. -/
def SetHex (s : String) : Uint256 :=
  let cs := s.data.dropWhile isSpace
  let cs := if cs.head? = some '0' ∧ (cs.drop 1).head?.map Char.toLower = some 'x'
    then cs.drop 2 else cs
  let ds := (cs.takeWhile fun c => (HexDigit c).isSome).filterMap HexDigit
  BitVec.ofNat 256 (accumulate 16 (ds.drop (ds.length - 64)))

/-- Modelled from the spec: `ParseHashV(v, strName)` (`rpc/util.cpp`, not in this slice) for a
string `v`. -/
def ParseHashV (strHex strName : String) : Except JSONRPCError Uint256 :=
  if strHex.length ≠ 64 then
    .error ⟨.RPC_INVALID_PARAMETER, strName ++ " must be of length 64 (not " ++
      stdToString strHex.length ++ ", for '" ++ strHex ++ "')"⟩
  else if IsHex strHex = false then
    .error ⟨.RPC_INVALID_PARAMETER,
      strName ++ " must be hexadecimal string (not '" ++ strHex ++ "')"⟩
  else .ok (SetHex strHex)

theorem digitChar_hex : ∀ d, d < 16 → HexDigit (Nat.digitChar d) = some d ∧
    (Nat.digitChar d).toLower ≠ 'x' := by
  decide

theorem SetHex_hexChars (ds : List Nat) (hds : ∀ d ∈ ds, d < 16) :
    SetHex ⟨ds.map Nat.digitChar⟩ = BitVec.ofNat 256 (accumulate 16 (ds.drop (ds.length - 64))) := by
  have hval : ∀ c ∈ ds.map Nat.digitChar, (HexDigit c).isSome := by
    simp only [List.mem_map]
    rintro c ⟨d, hd, rfl⟩
    simp [(digitChar_hex d (hds d hd)).1]
  have hfm : (ds.map Nat.digitChar).filterMap HexDigit = ds := by
    rw [List.filterMap_map]
    conv_rhs => rw [← List.filterMap_some ds]
    exact List.filterMap_congr fun d hd => (digitChar_hex d (hds d hd)).1
  have hdrop : (ds.map Nat.digitChar).dropWhile isSpace = ds.map Nat.digitChar := by
    cases ds with
    | nil => rfl
    | cons d ds => simp [List.dropWhile_cons, (digitChar_not_sign d (hds d (by simp))).1]
  have hx : ¬ (((ds.map Nat.digitChar).drop 1).head?.map Char.toLower = some 'x') := by
    match ds, hds with
    | [], _ => simp
    | [_], _ => simp
    | _ :: e :: _, hds => simpa using (digitChar_hex e (hds e (by simp))).2
  simp only [SetHex, hdrop, hx, and_false, if_false, List.takeWhile_eq_self_iff.mpr hval, hfm]

/-- A hash's hex text passes `ParseHashV` and reads back as the hash. -/
theorem ParseHashV_GetHex (h : Uint256) (strName : String) :
    ParseHashV (GetHex h) strName = .ok h := by
  have hlt := hexDigits_lt 64 h.toNat
  have hhex : IsHex (GetHex h) = true := by
    simp only [IsHex, GetHex, String.length, List.length_map, length_hexDigits]
    simpa [List.all_eq_true] using fun d hd => by simp [(digitChar_hex d (hlt d hd)).1]
  rw [ParseHashV, if_neg (by simp [length_GetHex]), if_neg (by simp [hhex]), GetHex, SetHex_hexChars _ hlt,
    length_hexDigits, Nat.sub_self, List.drop_zero, accumulate_hexDigits,
    Nat.mod_eq_of_lt (by simpa using h.isLt), BitVec.ofNat_toNat, BitVec.setWidth_eq]

end VelesMining
