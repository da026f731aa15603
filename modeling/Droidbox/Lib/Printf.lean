import Mathlib.Algebra.Order.Ring.Int
import Mathlib.Data.List.Basic

/-!
# Formatted output

The part of `printf` that lists of descriptors and logs of transfers are printed with: `%d`, `%.nX`
and `%s`. A text is read back from the front, so each conversion has to say where it ends: `%.nX` by
its width, `%d` of a number that is not negative by what follows it not being a digit, and `%s` only
by what follows it not occurring in the string.

* **`value_hex`**: hexadecimal digits give back their number.
* **`fprintf_inj`**: when the text of a call determines its arguments, and where it ends.
* **`flatMap_inj`**, **`blocks_inj`**: texts that say where they end may follow one another.
-/

namespace Printf

/-! ## Formats -/

/-- A character of the output, or a conversion. -/
inductive Piece where
  | char (c : Char)
  | dec
  | hex (precision : Nat)
  | str

inductive Arg where
  | num (n : Nat)
  | str (s : List Char)

/-- The pieces of a format string. -/
def parse : List Char → List Piece
  | '%' :: 'd' :: format => .dec :: parse format
  | '%' :: 's' :: format => .str :: parse format
  | '%' :: '.' :: digit :: 'X' :: format => .hex (digit.toNat - '0'.toNat) :: parse format
  | c :: format => .char c :: parse format
  | [] => []

def dec (n : Nat) : List Char := Nat.toDigits 10 n

/-- `%d` of any number. -/
def int : Int → List Char
  | .ofNat n => dec n
  | .negSucc n => '-' :: dec (n + 1)

/-- `%.nX`: at least as many digits as the precision, zeros in front. -/
def hex (precision n : Nat) : List Char :=
  ((Nat.toDigits 16 n).map Char.toUpper).leftpad precision '0'

/-- The text of a call. For arguments that do not match the format C does not define any. -/
def fprintf : List Piece → List Arg → List Char
  | [], _ => []
  | .char c :: format, args => c :: fprintf format args
  | .dec :: format, .num n :: args => dec n ++ fprintf format args
  | .hex precision :: format, .num n :: args => hex precision n ++ fprintf format args
  | .str :: format, .str s :: args => s ++ fprintf format args
  | _ :: _, _ => []

/-! ## Bytes -/

/-- The characters of a string of bytes, each of them by its code. -/
def chars (s : List UInt8) : List Char := s.map fun b => Char.ofNat b.toNat

theorem toNat_ofByte (b : UInt8) : (Char.ofNat b.toNat).toNat = b.toNat := by
  have hvalid : b.toNat.isValidChar := .inl (Nat.lt_trans b.toNat_lt (by decide))
  rw [Char.ofNat, dif_pos hvalid]
  rfl

theorem chars_inj {s t : List UInt8} : chars s = chars t ↔ s = t := by
  refine List.map_inj_right fun b c hbc => ?_
  have htoNat := congrArg Char.toNat hbc
  rw [toNat_ofByte, toNat_ofByte] at htoNat
  exact UInt8.toNat_inj.mp htoNat

theorem newline_not_mem_chars {s : List UInt8} (h : 10 ∉ s) : '\n' ∉ chars s := by
  intro hmem
  obtain ⟨b, hb, heq⟩ := List.mem_map.mp hmem
  have htoNat := congrArg Char.toNat heq
  rw [toNat_ofByte] at htoNat
  rw [UInt8.toNat_inj.mp (show b.toNat = (10 : UInt8).toNat from htoNat)] at hb
  exact h hb

/-! ## Numbers -/

/-- The number of a string of hexadecimal digits. -/
def value (s : List Char) : Nat := s.foldl (fun n c => 16 * n + digit c) 0
where
  digit (c : Char) : Nat := if c.isDigit then c.toNat - '0'.toNat else c.toNat - 'A'.toNat + 10

theorem value_concat (s : List Char) (c : Char) :
    value (s ++ [c]) = 16 * value s + value.digit c := by
  rw [value, List.foldl_append]
  rfl

theorem digit_toUpper_digitChar : ∀ d < 16, value.digit (Nat.digitChar d).toUpper = d := by
  decide

theorem value_toDigits (n : Nat) : value ((Nat.toDigits 16 n).map Char.toUpper) = n := by
  induction n using Nat.strongRecOn with
  | ind n ih =>
    by_cases hn : n < 16
    · rw [Nat.toDigits_of_lt_base hn, List.map_singleton, ← List.nil_append [_], value_concat,
        digit_toUpper_digitChar n hn]
      exact Nat.zero_add n
    · have hlast := digit_toUpper_digitChar (n % 16) (Nat.mod_lt n (by decide))
      rw [Nat.toDigits_of_base_le (by decide) (Nat.not_lt.mp hn), List.map_append,
        List.map_singleton, value_concat, ih (n / 16) (by omega), hlast]
      exact Nat.div_add_mod n 16

theorem value_zeros (k : Nat) (s : List Char) : value (List.replicate k '0' ++ s) = value s := by
  induction k with
  | zero => rfl
  | succ k ih =>
    rw [← ih, List.replicate_succ, List.cons_append]
    rfl

/-- **Hexadecimal digits** give back their number. -/
theorem value_hex (precision n : Nat) : value (hex precision n) = n := by
  rw [hex, List.leftpad, value_zeros, value_toDigits]

theorem hex_length {precision n : Nat} (hpos : 0 < precision) (h : n < 16 ^ precision) :
    (hex precision n).length = precision := by
  have hle := (Nat.length_toDigits_le_iff (by decide) hpos).mpr h
  rw [hex, List.length_leftpad, List.length_map]
  exact Nat.max_eq_left hle

theorem dec_inj {n m : Nat} (h : dec n = dec m) : n = m := by
  have hvalue := congrArg (fun s => Nat.ofDigitChars 10 s 0) h
  dsimp only [dec] at hvalue
  rwa [Nat.ofDigitChars_ten_toDigits, Nat.ofDigitChars_ten_toDigits] at hvalue

theorem not_mem_dec {c : Char} (hc : c.isDigit = false) (n : Nat) : c ∉ dec n := by
  intro hmem
  rw [Nat.isDigit_of_mem_toDigits (by decide) (by decide) hmem] at hc
  cases hc

/-! ## Reading back -/

/-- Up to a character that occurs in neither of two texts, these are the same. -/
theorem delimited_inj {γ : Type*} {c : γ} {x y s t : List γ} (hx : c ∉ x) (hy : c ∉ y)
    (h : x ++ c :: s = y ++ c :: t) : x = y ∧ s = t := by
  induction x generalizing y with
  | nil =>
    cases y with
    | nil => exact ⟨rfl, (List.cons.inj h).2⟩
    | cons d y =>
      obtain ⟨rfl, -⟩ := List.cons.inj h
      exact absurd List.mem_cons_self hy
  | cons d x ih =>
    cases y with
    | nil =>
      obtain ⟨rfl, -⟩ := List.cons.inj h
      exact absurd List.mem_cons_self hx
    | cons e y =>
      obtain ⟨rfl, hrest⟩ := List.cons.inj h
      obtain ⟨rfl, hst⟩ := ih (List.not_mem_of_not_mem_cons hx) (List.not_mem_of_not_mem_cons hy)
        hrest
      exact ⟨rfl, hst⟩

/-- A conversion, with what its text ends at. -/
inductive Conversion where
  | dec
  | hex (precision : Nat)
  | str (delimiter : Char)
  deriving DecidableEq, Repr

/-- The conversions of a format in which each of them ends somewhere. -/
def conversions : List Piece → Option (List Conversion)
  | [] => some []
  | .char _ :: format => conversions format
  | .dec :: .char c :: format =>
    if c.isDigit then none else (conversions format).map (.dec :: ·)
  | .hex precision :: format =>
    if precision = 0 then none else (conversions format).map (.hex precision :: ·)
  | .str :: .char c :: format => (conversions format).map (.str c :: ·)
  | _ :: _ => none

/-- The arguments of two calls can be told from each other one by one: a number is not too large
for its width, and a string does not hold what it ends at, unless the arguments in front of it
decide it. -/
def Distinct : List Conversion → List Arg → List Arg → Prop
  | [], args, args' => args = [] ∧ args' = []
  | .dec :: rest, .num n :: args, .num n' :: args' => n = n' → Distinct rest args args'
  | .hex precision :: rest, .num n :: args, .num n' :: args' =>
    (n < 16 ^ precision ∧ n' < 16 ^ precision) ∧ (n = n' → Distinct rest args args')
  | .str c :: rest, .str s :: args, .str s' :: args' =>
    (s = s' ∨ (c ∉ s ∧ c ∉ s')) ∧ (s = s' → Distinct rest args args')
  | _ :: _, _, _ => False

theorem Distinct.dec {rest : List Conversion} {args args' : List Arg}
    (h : Distinct (.dec :: rest) args args') : ∃ n n' as as',
      args = .num n :: as ∧ args' = .num n' :: as' ∧ (n = n' → Distinct rest as as') := by
  match args, args', h with
  | .num n :: as, .num n' :: as', h => exact ⟨n, n', as, as', rfl, rfl, h⟩

theorem Distinct.hex {precision : Nat} {rest : List Conversion} {args args' : List Arg}
    (h : Distinct (.hex precision :: rest) args args') : ∃ n n' as as',
      args = .num n :: as ∧ args' = .num n' :: as' ∧ (n < 16 ^ precision ∧ n' < 16 ^ precision)
        ∧ (n = n' → Distinct rest as as') := by
  match args, args', h with
  | .num n :: as, .num n' :: as', ⟨hn, h⟩ => exact ⟨n, n', as, as', rfl, rfl, hn, h⟩

theorem Distinct.str {c : Char} {rest : List Conversion} {args args' : List Arg}
    (h : Distinct (.str c :: rest) args args') : ∃ s s' as as',
      args = .str s :: as ∧ args' = .str s' :: as' ∧ (s = s' ∨ (c ∉ s ∧ c ∉ s'))
        ∧ (s = s' → Distinct rest as as') := by
  match args, args', h with
  | .str s :: as, .str s' :: as', ⟨hs, h⟩ => exact ⟨s, s', as, as', rfl, rfl, hs, h⟩

/-- **The text of a call** determines its arguments and where it ends. Induction on the format. -/
theorem fprintf_inj {format : List Piece} {convs : List Conversion} {args args' : List Arg}
    {s t : List Char} (hconvs : conversions format = some convs)
    (hdistinct : Distinct convs args args')
    (h : fprintf format args ++ s = fprintf format args' ++ t) : args = args' ∧ s = t := by
  induction format using conversions.induct generalizing convs args args' with
  | case1 =>
    cases hconvs
    obtain ⟨rfl, rfl⟩ := hdistinct
    exact ⟨rfl, h⟩
  | case2 c format ih =>
    simp only [fprintf, List.cons_append, List.cons.injEq, true_and] at h
    exact ih hconvs hdistinct h
  | case3 c format hc =>
    rw [conversions, if_pos hc] at hconvs
    cases hconvs
  | case4 c format hc ih =>
    rw [conversions, if_neg hc] at hconvs
    obtain ⟨rest, hrest, rfl⟩ := Option.map_eq_some_iff.mp hconvs
    obtain ⟨n, n', as, as', rfl, rfl, hrec⟩ := hdistinct.dec
    simp only [fprintf, List.append_assoc, List.cons_append] at h
    have hend := Bool.eq_false_iff.mpr hc
    obtain ⟨hdec, hst⟩ := delimited_inj (not_mem_dec hend n) (not_mem_dec hend n') h
    obtain rfl := dec_inj hdec
    obtain ⟨rfl, rfl⟩ := ih hrest (hrec rfl) hst
    exact ⟨rfl, rfl⟩
  | case5 format =>
    rw [conversions, if_pos rfl] at hconvs
    cases hconvs
  | case6 precision format hpos ih =>
    rw [conversions, if_neg hpos] at hconvs
    obtain ⟨rest, hrest, rfl⟩ := Option.map_eq_some_iff.mp hconvs
    obtain ⟨n, n', as, as', rfl, rfl, ⟨hn, hn'⟩, hrec⟩ := hdistinct.hex
    simp only [fprintf, List.append_assoc] at h
    have hlength : (hex precision n).length = (hex precision n').length := by
      rw [hex_length (Nat.pos_of_ne_zero hpos) hn, hex_length (Nat.pos_of_ne_zero hpos) hn']
    obtain ⟨hhex, hst⟩ := List.append_inj h hlength
    have hvalue := congrArg value hhex
    rw [value_hex, value_hex] at hvalue
    subst hvalue
    obtain ⟨rfl, rfl⟩ := ih hrest (hrec rfl) hst
    exact ⟨rfl, rfl⟩
  | case7 c format ih =>
    rw [conversions] at hconvs
    obtain ⟨rest, hrest, rfl⟩ := Option.map_eq_some_iff.mp hconvs
    obtain ⟨x, x', as, as', rfl, rfl, hstring, hrec⟩ := hdistinct.str
    simp only [fprintf, List.append_assoc, List.cons_append] at h
    have hboth : x = x' ∧ fprintf format as ++ s = fprintf format as' ++ t := by
      rcases hstring with rfl | ⟨hx, hx'⟩
      · exact ⟨rfl, (List.cons.inj (List.append_cancel_left h)).2⟩
      · exact delimited_inj hx hx' h
    obtain ⟨rfl, hst⟩ := hboth
    obtain ⟨rfl, rfl⟩ := ih hrest (hrec rfl) hst
    exact ⟨rfl, rfl⟩
  | case8 piece format hdec hhex hstr =>
    simp [conversions] at hconvs

/-- The arguments are those the format asks for. -/
def Fits : List Piece → List Arg → Prop
  | [], args => args = []
  | .char _ :: format, args => Fits format args
  | .dec :: format, .num _ :: args => Fits format args
  | .hex _ :: format, .num _ :: args => Fits format args
  | .str :: format, .str _ :: args => Fits format args
  | _ :: _, _ => False

theorem fprintf_append {format : List Piece} {args : List Arg} (h : Fits format args)
    (format' : List Piece) (args' : List Arg) :
    fprintf (format ++ format') (args ++ args') = fprintf format args ++ fprintf format' args' := by
  fun_induction Fits format args with
  | case1 args =>
    rw [h]
    rfl
  | case2 c format args ih => simp only [List.cons_append, fprintf, ih h]
  | case3 format n args ih => simp only [List.cons_append, fprintf, ih h, List.append_assoc]
  | case4 precision format n args ih =>
    simp only [List.cons_append, fprintf, ih h, List.append_assoc]
  | case5 format x args ih => simp only [List.cons_append, fprintf, ih h, List.append_assoc]
  | case6 => exact h.elim

/-- The characters in front of the first conversion. -/
def leading : List Piece → List Char
  | .char c :: format => c :: leading format
  | _ => []

theorem leading_is_initial (format : List Piece) (args : List Arg) :
    leading format <+: fprintf format args := by
  fun_induction leading format with
  | case1 c format ih => exact (List.cons_prefix_cons.mpr ⟨rfl, ih⟩)
  | case2 format => exact List.nil_prefix

theorem getElem?_fprintf {format : List Piece} {i : Nat} {c : Char}
    (h : (leading format)[i]? = some c) (args : List Arg) (s : List Char) :
    (fprintf format args ++ s)[i]? = some c := by
  obtain ⟨hi, -⟩ := List.getElem?_eq_some_iff.mp h
  obtain ⟨rest, hrest⟩ := (leading_is_initial format args).trans (List.prefix_append _ s)
  rw [← hrest, List.getElem?_append_left hi, h]

/-- Two formats that do not start alike do not print the same text, and neither do two that start
alike and go on differently. -/
theorem fprintf_fork {common format format' : List Piece} {convs : List Conversion}
    {args args' : List Arg} (hconvs : conversions common = some convs)
    (hdistinct : Distinct convs args args') (hfits : Fits common args) (hfits' : Fits common args')
    {i : Nat} {c d : Char} (hc : (leading format)[i]? = some c)
    (hd : (leading format')[i]? = some d) (hne : c ≠ d) (more more' : List Arg) (s t : List Char) :
    fprintf (common ++ format) (args ++ more) ++ s
      ≠ fprintf (common ++ format') (args' ++ more') ++ t := by
  intro h
  rw [fprintf_append hfits, fprintf_append hfits', List.append_assoc, List.append_assoc] at h
  have hrest := (fprintf_inj hconvs hdistinct h).2
  have hchar := getElem?_fprintf hc more s
  rw [hrest, getElem?_fprintf hd more' t] at hchar
  exact hne (Option.some.inj hchar).symm

/-! ## One text behind the other -/

/-- **Texts that say where they end** may follow one another. -/
theorem flatMap_inj {α γ : Type*} {P : α → Prop} {f : α → List γ}
    (hf : ∀ a b s t, P a → P b → f a ++ s = f b ++ t → a = b ∧ s = t) (hne : ∀ a, f a ≠ [])
    {xs ys : List α} (hxs : ∀ a ∈ xs, P a) (hys : ∀ a ∈ ys, P a)
    (h : xs.flatMap f = ys.flatMap f) : xs = ys := by
  induction xs generalizing ys with
  | nil =>
    cases ys with
    | nil => rfl
    | cons b ys =>
      rw [List.flatMap_nil, List.flatMap_cons] at h
      exact absurd (List.append_eq_nil_iff.mp h.symm).1 (hne b)
  | cons a xs ih =>
    obtain ⟨ha, hxs'⟩ := List.forall_mem_cons.mp hxs
    cases ys with
    | nil =>
      rw [List.flatMap_nil, List.flatMap_cons] at h
      exact absurd (List.append_eq_nil_iff.mp h).1 (hne a)
    | cons b ys =>
      obtain ⟨hb, hys'⟩ := List.forall_mem_cons.mp hys
      rw [List.flatMap_cons, List.flatMap_cons] at h
      obtain ⟨rfl, hrest⟩ := hf a b _ _ ha hb h
      rw [ih hxs' hys' hrest]

/-- Up to the first mark, or to the end, two lists are the same. -/
theorem append_inj_of_marks {γ : Type*} {Mark : γ → Prop} {x y s t : List γ}
    (hx : ∀ c ∈ x, ¬ Mark c) (hy : ∀ c ∈ y, ¬ Mark c) (hs : ∀ c ∈ s.head?, Mark c)
    (ht : ∀ c ∈ t.head?, Mark c) (h : x ++ s = y ++ t) : x = y ∧ s = t := by
  induction x generalizing y with
  | nil =>
    cases y with
    | nil => exact ⟨rfl, h⟩
    | cons d y =>
      obtain rfl : s = d :: (y ++ t) := h
      exact absurd (hs d rfl) (hy d List.mem_cons_self)
  | cons c x ih =>
    cases y with
    | nil =>
      obtain rfl : t = c :: (x ++ s) := h.symm
      exact absurd (ht c rfl) (hx c List.mem_cons_self)
    | cons d y =>
      obtain ⟨rfl, hrest⟩ := List.cons.inj h
      obtain ⟨rfl, hst⟩ := ih (List.forall_mem_cons.mp hx).2 (List.forall_mem_cons.mp hy).2 hrest
      exact ⟨rfl, hst⟩

/-- **Blocks that start with a mark**, and hold no other, can be told from each other. -/
theorem blocks_inj {α γ : Type*} (Mark : γ → Prop) (head : α → γ) (body : α → List γ)
    (hhead : ∀ a, Mark (head a)) (hbody : ∀ a, ∀ c ∈ body a, ¬ Mark c) {xs ys : List α}
    (h : xs.flatMap (fun a => head a :: body a) = ys.flatMap fun a => head a :: body a) :
    xs.map (fun a => (head a, body a)) = ys.map fun a => (head a, body a) := by
  have hfirst : ∀ zs : List α, ∀ c ∈ (zs.flatMap fun a => head a :: body a).head?, Mark c := by
    intro zs c hc
    cases zs with
    | nil => cases hc
    | cons a zs =>
      obtain rfl : head a = c := Option.some.inj hc
      exact hhead a
  induction xs generalizing ys with
  | nil =>
    cases ys with
    | nil => rfl
    | cons b ys => cases h
  | cons a xs ih =>
    cases ys with
    | nil => cases h
    | cons b ys =>
      rw [List.flatMap_cons, List.flatMap_cons, List.cons_append, List.cons_append] at h
      obtain ⟨heq, htail⟩ := List.cons.inj h
      obtain ⟨hbodies, hrest⟩ := append_inj_of_marks (hbody a) (hbody b) (hfirst xs) (hfirst ys)
        htail
      rw [List.map_cons, List.map_cons, heq, hbodies, ih hrest]

end Printf
