import Nomenclator.Json.Strings

/-!
# Strings come back as they were written

Whoever writes a list of strings has to escape some of their characters, and whoever
reads it has to cut the text into tokens first. Both work character by character: a
character that is escaped is scanned as one unit again, and none of the units is half
of a surrogate pair, because there are no such characters. So the scan of a string
stops at its own closing quote and nowhere before, whatever stands in it, and the rest
is left for the next token.
-/

namespace Nomenclator.Json

namespace Token

/-! ## One string -/

theorem unit_hexDigits : ∀ n < 0x20,
    unit? '0' '0' (Text.hexDigit (n / 16) false) (Text.hexDigit (n % 16) false) = some n := by
  decide

/-- A character is scanned as one unit, however it is escaped. -/
theorem scan_escaped (units : Units) (c : Char) (rest : List Char) :
    scan units ((escaped c).toList ++ rest) = scan (c.toNat :: units) rest := by
  unfold escaped
  split
  case h_8 hquote hslash _ _ _ _ _ =>
    split
    · next hcontrol =>
        have hunit := unit_hexDigits c.toNat hcontrol
        rw [String.toList_ofList, List.cons_append, List.cons_append, List.cons_append,
          List.cons_append, List.cons_append, List.cons_append, List.nil_append, scan, hunit]
    · next hplain =>
        have hunit : ¬(c.toNat < 0x20 || c == '\\') = true := by
          rw [beq_false_of_ne hslash, Bool.or_false, decide_eq_true_iff]
          exact hplain
        rw [Char.toString, String.toList_singleton, List.singleton_append, scan, if_neg hunit]
        · exact hquote
        · rintro _ _ _ _ _ rfl
          exact absurd rfl hslash
        · rintro _ _ rfl
          exact absurd rfl hslash
  all_goals rfl

theorem scan_quoted (units : Units) (cs rest : List Char) :
    scan units ((String.join (cs.map escaped)).toList ++ '"' :: rest) =
      some ((cs.map Char.toNat).reverse ++ units, rest) := by
  induction cs generalizing units with
  | nil => rfl
  | cons c cs ih =>
      rw [List.map_cons, String.join_cons, String.toList_append, List.append_assoc, scan_escaped,
        ih, List.map_cons, List.reverse_cons, List.append_assoc, List.singleton_append]

/-- No character is half of a surrogate pair. -/
theorem isLow_toNat (c : Char) : isLow c.toNat = false ∧ isHigh c.toNat = false := by
  have hvalid : c.toNat < 0xD800 ∨ 0xDFFF < c.toNat ∧ c.toNat < 0x110000 := c.valid
  unfold isLow isHigh
  simp only [Bool.and_eq_false_iff, decide_eq_false_iff_not]
  omega

theorem combined_toNat (cs done : List Char) :
    combined? done (cs.map Char.toNat) = some (cs.reverse ++ done) := by
  induction cs generalizing done with
  | nil => rfl
  | cons c cs ih =>
      obtain ⟨hlow, hhigh⟩ := isLow_toNat c
      cases cs with
      | nil => simp [combined?, hlow, hhigh]
      | cons d cs =>
          have hrest := ih (c :: done)
          rw [List.map_cons] at hrest
          simp [combined?, hlow, hhigh, (isLow_toNat d).2, Char.ofNat_toNat, hrest]

theorem toList_quoted (s : String) (rest : List Char) :
    (quoted s).toList ++ rest =
      '"' :: ((String.join (s.toList.map escaped)).toList ++ '"' :: rest) := by
  simp [quoted]

theorem first_quoted (s : String) (rest : List Char) :
    first ((quoted s).toList ++ rest) = some (.text (some s), rest) := by
  rw [toList_quoted, first, scan_quoted, Option.map_some, List.append_nil, ← List.map_reverse,
    combined_toNat]
  simp

/-! ## Lists of strings -/

theorem readFrom_first (done : List Token) {c : Char} {s after : List Char} {t : Token}
    (hblank : isSpace c = false) (hfirst : first (c :: s) = some (t, after)) :
    readFrom done (c :: s) = readFrom (t :: done) after := by
  rw [readFrom, if_neg (by simp [hblank])]
  split
  · next hnone =>
      rw [hfirst] at hnone
      cases hnone
  · next hsome =>
      obtain ⟨rfl, rfl⟩ := Prod.mk.inj (Option.some.inj (hfirst.symm.trans hsome))
      rfl

theorem readFrom_quoted (done : List Token) (s : String) (rest : List Char) :
    readFrom done ((quoted s).toList ++ rest) = readFrom (.text (some s) :: done) rest := by
  have hfirst := first_quoted s rest
  rw [toList_quoted] at hfirst ⊢
  exact readFrom_first done rfl hfirst

/-- The tokens of the items of a list and its end. -/
def ofItems : List String → List Token
  | [] => [.closeList]
  | [s] => [.text (some s), .closeList]
  | s :: rest => .text (some s) :: .comma :: ofItems rest

theorem readFrom_items (done : List Token) (strings : List String) :
    readFrom done ((Text.joinWith "," (strings.map quoted)).toList ++ [']']) =
      done.reverse ++ ofItems strings := by
  have hend (done : List Token) : readFrom done [']'] = done.reverse ++ [.closeList] := by
    rw [readFrom_first done rfl rfl, readFrom, List.reverse_cons]
  induction strings generalizing done with
  | nil => exact hend done
  | cons s strings ih =>
      cases strings with
      | nil =>
          rw [List.map_singleton, Text.joinWith, readFrom_quoted, hend]
          simp [ofItems]
      | cons s' strings =>
          have hcomma (after : List Char) :
              readFrom (.text (some s) :: done) (',' :: after) =
                readFrom (.comma :: .text (some s) :: done) after :=
            readFrom_first _ rfl rfl
          have hjoin : Text.joinWith "," ((s :: s' :: strings).map quoted) =
              quoted s ++ "," ++ Text.joinWith "," ((s' :: strings).map quoted) := rfl
          rw [hjoin, String.toList_append,
            String.toList_append, List.append_assoc, List.append_assoc, readFrom_quoted,
            show ",".toList = [','] from rfl, List.singleton_append, hcomma, ih]
          simp [ofItems]

end Token

theorem stringItems_ofItems (done : List String) {strings : List String} (hne : strings ≠ []) :
    stringItems done (Token.ofItems strings) = .ok (done.reverse ++ strings, []) := by
  induction strings generalizing done with
  | nil => exact absurd rfl hne
  | cons s strings ih =>
      cases strings with
      | nil => simp [Token.ofItems, stringItems]
      | cons s' strings =>
          rw [Token.ofItems, stringItems, ih _ (List.cons_ne_nil _ _)]
          · simp
          · exact List.cons_ne_nil _ _

theorem ofText_writeStrings (strings : List String) :
    Token.ofText (writeStrings strings).toList = .openList :: Token.ofItems strings := by
  have htext : (writeStrings strings).toList =
      '[' :: ((Text.joinWith "," (strings.map quoted)).toList ++ [']']) := by
    simp [writeStrings]
  rw [Token.ofText, htext, Token.readFrom_first [] rfl rfl, Token.readFrom_items]
  rfl

/-- A list of strings is read back from what is written for it. -/
theorem parseStrings_writeStrings (strings : List String) :
    parseStrings (writeStrings strings).toList = .ok strings := by
  have hlist : stringList (.openList :: Token.ofItems strings) = .ok (strings, []) := by
    cases strings with
    | nil => rfl
    | cons s strings =>
        rw [stringList]
        · exact stringItems_ofItems [] (List.cons_ne_nil _ _)
        · cases strings <;> simp [Token.ofItems]
  rw [parseStrings, ofText_writeStrings, hlist]

end Nomenclator.Json
