import ClusterAccess.Json.Print
import ClusterAccess.Yaml.Print

/-!
# Pages in ASCII

JSON and YAML are written in ASCII, every other character as an escape. So a page of either can be encoded,
whatever the texts in it hold.
-/
namespace ClusterAccess

namespace Text

@[simp] theorem isAscii_nil : IsAscii [] := fun _ h => absurd h List.not_mem_nil

@[simp] theorem isAscii_cons {c : Char} {cs : List Char} : IsAscii (c :: cs) ↔ c.toNat < 128 ∧ IsAscii cs :=
  List.forall_mem_cons

@[simp] theorem isAscii_append {cs ds : List Char} : IsAscii (cs ++ ds) ↔ IsAscii cs ∧ IsAscii ds :=
  List.forall_mem_append

theorem IsAscii.of_subset {cs ds : List Char} (h : IsAscii ds) (sub : cs ⊆ ds) : IsAscii cs :=
  fun c hc => h c (sub hc)

theorem IsAscii.flatMap {α : Type} {xs : List α} {f : α → List Char} (h : ∀ x ∈ xs, IsAscii (f x)) :
    IsAscii (xs.flatMap f) := fun c hc => by
  obtain ⟨x, hx, hc⟩ := List.mem_flatMap.mp hc
  exact h x hx c hc

theorem isAscii_replicate {c : Char} (h : c.toNat < 128) (n : Nat) : IsAscii (List.replicate n c) :=
  fun _ hd => List.eq_of_mem_replicate hd ▸ h

theorem isAscii_intercalate {separator : List Char} (h : IsAscii separator) {parts : List (List Char)}
    (each : ∀ part ∈ parts, IsAscii part) : IsAscii (separator.intercalate parts) := by
  induction parts with
  | nil => exact isAscii_nil
  | cons part rest ih =>
    obtain ⟨first, others⟩ := List.forall_mem_cons.mp each
    cases rest with
    | nil => simpa using first
    | cons next rest =>
      rw [List.intercalate_cons_cons, isAscii_append, isAscii_append]
      exact ⟨⟨first, h⟩, ih others⟩

/-! ## Numbers -/

theorem mem_hexDigits {width n : Nat} {c : Char} (h : c ∈ hexDigits width n) : ∃ d < 16, c = hexDigit d := by
  induction width generalizing n with
  | zero => cases h
  | succ width ih =>
    rcases List.mem_append.mp h with h | h
    · exact ih h
    · exact ⟨n % 16, Nat.mod_lt _ (by decide), List.mem_singleton.mp h⟩

theorem isAscii_hexDigits (width n : Nat) : IsAscii (hexDigits width n) := fun c hc => by
  obtain ⟨d, hd, rfl⟩ := mem_hexDigits hc
  exact (show ∀ d < 16, (hexDigit d).toNat < 128 by decide) d hd

theorem isAscii_nat (n : Nat) : IsAscii (toString n).toList := fun c hc => by
  have digit := Nat.isDigit_of_mem_toDigits (by decide) (by decide) (Nat.toList_repr ▸ hc)
  rw [Char.isDigit, Bool.and_eq_true, decide_eq_true_eq, decide_eq_true_eq] at digit
  exact Nat.lt_of_le_of_lt digit.2 (by decide)

theorem isAscii_int (i : Int) : IsAscii (toString i).toList := by
  cases i with
  | ofNat n => exact isAscii_nat n
  | negSucc n =>
    show IsAscii (Int.repr (.negSucc n)).toList
    rw [Int.repr, String.toList_append, isAscii_append]
    exact ⟨by decide, isAscii_nat (n + 1)⟩

end Text

open Text

namespace Double

theorem isAscii_layout {ds : List Char} (h : IsAscii ds) (point : Int) : IsAscii (layout ds point) := by
  have zeros (n : Nat) : IsAscii (List.replicate n '0') := isAscii_replicate (by decide) n
  have first : IsAscii (ds.take 1) := h.of_subset (List.take_subset 1 ds)
  have others (n : Nat) : IsAscii (ds.drop n) := h.of_subset (List.drop_subset n ds)
  have power : IsAscii (toString (point - 1).natAbs).toList := isAscii_nat _
  have whole (n m : Nat) : IsAscii ((ds ++ List.replicate n '0').take m) :=
    (isAscii_append.mpr ⟨h, zeros n⟩).of_subset (List.take_subset m _)
  unfold layout
  dsimp only
  split
  · split
    · simp [zeros, h]
    · split <;> simp [whole, others]
  · generalize (toString (point - 1).natAbs).toList = digits at power ⊢
    have fraction : IsAscii (if ds.length = 1 then [] else '.' :: ds.drop 1) := by
      split
      · exact isAscii_nil
      · exact isAscii_cons.mpr ⟨by decide, others 1⟩
    have sign : (if point - 1 < 0 then '-' else '+').toNat < 128 := by
      split <;> decide
    have exponent : IsAscii (if digits.length < 2 then '0' :: digits else digits) := by
      split <;> simp [power]
    exact isAscii_append.mpr ⟨isAscii_append.mpr ⟨first, fraction⟩,
      isAscii_cons.mpr ⟨by decide, isAscii_cons.mpr ⟨sign, exponent⟩⟩⟩

theorem isAscii_text (x : Double) : IsAscii x.text.toList := by
  have sign : IsAscii (if x.isNegative then "-" else "").toList := by
    split <;> decide
  have digits : IsAscii (dropTrailingZeros (toString x.shortest.1).toList) :=
    (isAscii_nat _).of_subset fun c hc =>
      List.mem_reverse.mp ((List.dropWhile_sublist _).subset (List.mem_reverse.mp hc))
  unfold text
  dsimp only
  split
  · decide
  · split
    · rw [String.toList_append, isAscii_append]
      exact ⟨sign, by decide⟩
    · split
      · rw [String.toList_append, isAscii_append]
        exact ⟨sign, by decide⟩
      · rw [String.toList_append, String.toList_ofList, isAscii_append]
        exact ⟨sign, isAscii_layout digits _⟩

end Double

end ClusterAccess

namespace ClusterAccess

open Text

/-! ## JSON -/

namespace Json

theorem isAscii_unitEscape (n : Nat) : IsAscii (unitEscape n) := by
  simp [unitEscape, isAscii_hexDigits]

theorem isAscii_code (n : Nat) : IsAscii (code n) := by
  unfold code
  split
  · next h =>
    rcases Bool.or_eq_true_iff.mp h with h | h <;> rw [beq_iff_eq.mp h] <;> decide
  · split
    · next h =>
      have small : (Char.ofNat n).toNat < 128 := (show ∀ n < 127, (Char.ofNat n).toNat < 128 by decide) n h.2
      exact isAscii_cons.mpr ⟨small, isAscii_nil⟩
    · iterate 5
        split
        · decide
      unfold codeEscape
      dsimp only
      split
      · exact isAscii_unitEscape n
      · exact isAscii_append.mpr ⟨isAscii_unitEscape _, isAscii_unitEscape _⟩

theorem isAscii_string (s : String) : IsAscii (string s).toList := by
  have codes : IsAscii (s.toList.flatMap fun c => code (codeOf c)) := .flatMap fun c _ => isAscii_code _
  simp [string, codes]

theorem isAscii_number (x : Double) : IsAscii (number x).toList := by
  unfold number
  split
  · decide
  · split
    · split <;> decide
    · exact x.isAscii_text

theorem isAscii_keyText (k : Value) : IsAscii (keyText k).toList := by
  cases k with
  | str s => exact isAscii_string s
  | _ => exact isAscii_string ""

theorem Layout.isAscii_break (l : Layout) : IsAscii l.break.toList := by
  cases l with
  | line => decide
  | indented level =>
    have indent : IsAscii (List.replicate (2 * level) ' ') := isAscii_replicate (by decide) _
    simp [Layout.break, indent]

theorem Layout.isAscii_comma (l : Layout) : IsAscii l.comma.toList := by
  cases l with
  | line => decide
  | indented level =>
    show IsAscii ("," ++ (Layout.indented level).break).toList
    rw [String.toList_append, isAscii_append]
    exact ⟨by decide, Layout.isAscii_break _⟩

theorem isAscii_enclose (l : Layout) {left right : String} {parts : List String}
    (hl : IsAscii left.toList) (hr : IsAscii right.toList) (each : ∀ part ∈ parts, IsAscii part.toList) :
    IsAscii (enclose l left right parts).toList := by
  have inner : IsAscii (l.deeper.comma.intercalate parts).toList := by
    rw [String.toList_intercalate]
    exact isAscii_intercalate l.deeper.isAscii_comma (List.forall_mem_map.mpr each)
  unfold enclose
  split
  · rw [String.toList_append, isAscii_append]
    exact ⟨hl, hr⟩
  · simp only [String.toList_append, isAscii_append]
    exact ⟨⟨⟨⟨hl, l.deeper.isAscii_break⟩, inner⟩, l.isAscii_break⟩, hr⟩

mutual

theorem isAscii_render (l : Layout) (v : Value) : IsAscii (render l v).toList := by
  cases v with
  | bool b =>
    rw [render]
    split <;> decide
  | int i => exact isAscii_int i
  | float x => exact isAscii_number x
  | str s => exact isAscii_string s
  | list items => exact isAscii_enclose l (by decide) (by decide) (isAscii_renderItems l.deeper items)
  | map entries => exact isAscii_enclose l (by decide) (by decide) (isAscii_renderEntries l.deeper entries)
  | _ => simp only [render]; decide

theorem isAscii_renderItems (l : Layout) (vs : List Value) :
    ∀ part ∈ renderItems l vs, IsAscii part.toList := by
  cases vs with
  | nil => exact fun _ h => absurd h List.not_mem_nil
  | cons v rest => exact List.forall_mem_cons.mpr ⟨isAscii_render l v, isAscii_renderItems l rest⟩

theorem isAscii_renderEntries (l : Layout) (es : List (Value × Value)) :
    ∀ part ∈ renderEntries l es, IsAscii part.toList := by
  cases es with
  | nil => exact fun _ h => absurd h List.not_mem_nil
  | cons e rest =>
    obtain ⟨k, v⟩ := e
    refine List.forall_mem_cons.mpr ⟨?_, isAscii_renderEntries l rest⟩
    rw [String.toList_append, String.toList_append, isAscii_append, isAscii_append]
    exact ⟨⟨isAscii_keyText k, by decide⟩, isAscii_render l v⟩

end

end Json

/-! ## YAML -/

namespace Yaml

theorem toNat_lt_of_not_needsEscape {c : Char} (h : needsEscape c = false) : c.toNat < 128 := by
  rw [needsEscape, Bool.not_eq_false', Bool.or_eq_true, beq_iff_eq, Bool.and_eq_true, decide_eq_true_eq,
    decide_eq_true_eq] at h
  rcases h with rfl | ⟨-, h⟩
  · decide
  · exact Nat.lt_of_le_of_lt h (by decide)

theorem isAscii_of_not_needsEscape {cs : List Char} (h : cs.any needsEscape = false) : IsAscii cs :=
  fun c hc => toNat_lt_of_not_needsEscape (Bool.eq_false_iff.mpr (List.any_eq_false.mp h c hc))

@[simp] theorem isAscii_newLine (indent : Nat) : IsAscii (newLine indent) :=
  isAscii_cons.mpr ⟨by decide, isAscii_replicate (by decide) indent⟩

theorem isAscii_takeWhile {p : Char → Bool} {cs : List Char} (h : IsAscii cs) : IsAscii (cs.takeWhile p) :=
  h.of_subset (List.takeWhile_sublist p).subset

theorem isAscii_drop {n : Nat} {cs : List Char} (h : IsAscii cs) : IsAscii (cs.drop n) :=
  h.of_subset (List.drop_subset n cs)

theorem isAscii_plain {cs : List Char} (h : IsAscii cs) (p : Place) : IsAscii (plain p cs) := by
  fun_induction plain p cs with
  | case1 p c rest _ ih =>
    have ascii := isAscii_cons.mp h
    exact isAscii_append.mpr ⟨isAscii_newLine _, ih ascii.2⟩
  | case2 p c rest _ spaces ih =>
    have ascii := isAscii_cons.mp h
    exact isAscii_append.mpr ⟨isAscii_cons.mpr ⟨ascii.1, isAscii_takeWhile ascii.2⟩, ih (isAscii_drop ascii.2)⟩
  | case3 p c rest _ ih =>
    have ascii := isAscii_cons.mp h
    exact isAscii_cons.mpr ⟨ascii.1, ih ascii.2⟩
  | case4 => exact isAscii_nil

theorem isAscii_singleRest {cs : List Char} (h : IsAscii cs) (p : Place) : IsAscii (singleRest p cs) := by
  fun_induction singleRest p cs with
  | case1 => exact isAscii_nil
  | case2 p c rest _ spaces more _ ih =>
    exact isAscii_append.mpr ⟨isAscii_newLine _, ih (isAscii_drop (isAscii_cons.mp h).2)⟩
  | case3 p c rest _ spaces more _ ih =>
    have ascii := (isAscii_cons.mp h).2
    exact isAscii_append.mpr ⟨isAscii_cons.mpr ⟨by decide, isAscii_takeWhile ascii⟩, ih (isAscii_drop ascii)⟩
  | case4 p c rest _ _ ends ih =>
    have ascii := (isAscii_cons.mp h).2
    have line : IsAscii ('\n' :: ends ++ newLine p.indent) :=
      isAscii_append.mpr ⟨isAscii_cons.mpr ⟨by decide, isAscii_takeWhile ascii⟩, isAscii_newLine _⟩
    exact isAscii_append.mpr ⟨line, ih (isAscii_drop ascii)⟩
  | case5 p c rest _ _ _ ih =>
    exact isAscii_cons.mpr ⟨by decide, isAscii_cons.mpr ⟨by decide, ih (isAscii_cons.mp h).2⟩⟩
  | case6 p c rest _ _ _ ih => exact isAscii_cons.mpr ⟨(isAscii_cons.mp h).1, ih (isAscii_cons.mp h).2⟩

theorem isAscii_single {cs : List Char} (h : IsAscii cs) (p : Place) : IsAscii (single p cs) := by
  have spaces : IsAscii (cs.takeWhile (· == ' ')) := isAscii_takeWhile h
  simp [single, spaces, isAscii_singleRest (isAscii_drop h)]

theorem isAscii_upperDigits (width n : Nat) : IsAscii (upperDigits width n) := fun c hc => by
  obtain ⟨digit, hd, rfl⟩ := List.mem_map.mp hc
  obtain ⟨d, small, rfl⟩ := mem_hexDigits hd
  exact (show ∀ d < 16, (hexDigit d).toUpper.toNat < 128 by decide) d small

theorem isAscii_escapeOf (n : Nat) : IsAscii (escapeOf n) := by
  unfold escapeOf
  split
  · next letter h =>
    have listed : letter ∈ shortEscapes.map (·.2) := by
      obtain ⟨before, after, split, -⟩ := List.lookup_eq_some_iff.mp h
      simp [split]
    have small : IsAscii (shortEscapes.map (·.2)) := by decide
    simp [small letter listed]
  · split
    · simp [isAscii_upperDigits]
    · split <;> simp [isAscii_upperDigits]

@[simp] theorem isAscii_doubleFold (p : Place) (next : Option Char) : IsAscii (doubleFold p next).1 := by
  unfold doubleFold
  dsimp only
  split <;> simp

theorem isAscii_doubleFrom (p : Place) (isFirst fresh : Bool) (cs : List Char) :
    IsAscii (doubleFrom p isFirst fresh cs) := by
  induction cs generalizing p isFirst fresh with
  | nil => exact isAscii_nil
  | cons c rest ih =>
    unfold doubleFrom
    dsimp only
    split
    · split
      · simp [isAscii_escapeOf, ih]
      · simp [isAscii_escapeOf, ih]
    · next plain =>
      -- a character that is not escaped needs no escape
      have small : c.toNat < 128 := toNat_lt_of_not_needsEscape (by
        cases h : needsEscape c with
        | false => rfl
        | true => simp [h] at plain)
      split <;> simp [small, ih]

theorem isAscii_double (p : Place) (cs : List Char) : IsAscii (double p cs) := by
  simp [double, isAscii_doubleFrom]

/-- Only between double quotes stand texts with characters that need an escape. -/
theorem isAscii_of_styleOf {asKey : Bool} {s : String} (h : styleOf asKey s ≠ .double) : IsAscii s.toList := by
  refine isAscii_of_not_needsEscape ?_
  unfold styleOf at h
  split at h
  · next plain =>
    simp only [canBePlain, Bool.and_eq_true, Bool.not_eq_true'] at plain
    exact plain.1.1.1.1.2
  · split at h
    · next single =>
      simp only [canBeSingle, Bool.and_eq_true, Bool.not_eq_true'] at single
      exact single.1.1.1
    · exact absurd rfl h

theorem isAscii_text (p : Place) (asKey : Bool) (s : String) : IsAscii (text p asKey s) := by
  unfold text
  split
  · next h => exact isAscii_plain (@isAscii_of_styleOf asKey s (by simp [h])) p
  · next h => exact isAscii_single (@isAscii_of_styleOf asKey s (by simp [h])) p
  · exact isAscii_double p _

theorem isAscii_doubleText (x : Double) : IsAscii (doubleText x).toList := by
  unfold doubleText
  dsimp only
  split
  · decide
  · split
    · split <;> decide
    · split
      · exact x.isAscii_text
      · rw [String.toList_ofList]
        refine .flatMap fun c hc => ?_
        split
        · decide
        · exact isAscii_cons.mpr ⟨x.isAscii_text c hc, isAscii_nil⟩

theorem isAscii_scalar (p : Place) (asKey : Bool) (v : Value) : IsAscii (scalar p asKey v) := by
  cases v with
  | bool b =>
    rw [scalar]
    split <;> decide
  | int i => exact isAscii_int i
  | float x => exact isAscii_doubleText x
  | str s => exact isAscii_text p asKey s
  | null | list items | map entries => rw [scalar]; decide
  | _ => exact isAscii_nil

theorem isAscii_stacked {parts : List (List Char)} (each : ∀ part ∈ parts, IsAscii part) (indent : Nat) :
    IsAscii (stacked indent parts) :=
  isAscii_intercalate (isAscii_newLine indent) each

mutual

theorem isAscii_inner (indent : Nat) (v : Value) : IsAscii (inner indent v) := by
  cases v with
  | list items =>
    cases items with
    | nil => simp [inner, isAscii_scalar]
    | cons v rest => simpa [inner] using isAscii_stacked (isAscii_items (indent + 2) (v :: rest)) (indent + 2)
  | map entries =>
    cases entries with
    | nil => simp [inner, isAscii_scalar]
    | cons e rest => simpa [inner] using isAscii_stacked (isAscii_entries (indent + 2) (e :: rest)) (indent + 2)
  | _ => simp [inner, isAscii_scalar]

theorem isAscii_value (indent column : Nat) (v : Value) : IsAscii (value indent column v) := by
  cases v with
  | list items =>
    cases items with
    | nil => simp [value, isAscii_scalar]
    | cons v rest => simpa [value] using isAscii_stacked (isAscii_items indent (v :: rest)) indent
  | map entries =>
    cases entries with
    | nil => simp [value, isAscii_scalar]
    | cons e rest => simpa [value] using isAscii_stacked (isAscii_entries (indent + 2) (e :: rest)) (indent + 2)
  | _ => simp [value, isAscii_scalar]

theorem isAscii_items (indent : Nat) (vs : List Value) : ∀ part ∈ items indent vs, IsAscii part := by
  cases vs with
  | nil => exact fun _ h => absurd h List.not_mem_nil
  | cons v rest =>
    refine List.forall_mem_cons.mpr ⟨?_, isAscii_items indent rest⟩
    exact isAscii_cons.mpr ⟨by decide, isAscii_inner indent v⟩

theorem isAscii_entries (indent : Nat) (es : List (Value × Value)) :
    ∀ part ∈ entries indent es, IsAscii part := by
  cases es with
  | nil => exact fun _ h => absurd h List.not_mem_nil
  | cons e rest =>
    obtain ⟨k, v⟩ := e
    refine List.forall_mem_cons.mpr ⟨?_, isAscii_entries indent rest⟩
    split
    · simp [isAscii_scalar, isAscii_value]
    · simp [isAscii_scalar, isAscii_inner]

end

theorem isAscii_print (es : List (Value × Value)) : IsAscii (print es).toList := by
  unfold print
  split
  · decide
  · rw [String.toList_ofList]
    exact isAscii_stacked (isAscii_entries 0 es) 0

end Yaml

end ClusterAccess
