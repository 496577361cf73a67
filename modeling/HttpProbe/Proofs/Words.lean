/-
**What an identifier means in an expression.**

The name of a variable is one word in an expression, whatever letters it is made of.  But a word is looked
at as a number first, then as a truth value, and is the name of a variable only if it is neither; and some
identifiers are numbers or truth values.  A variable with such a name can be declared, and it can stand in a
template, but no expression reads it: where it is meant, the value of the word is taken.  Every other
declared variable is read by its name, with the value that it was declared with.

Main definitions:

* `Expression.literal?` — the value that an identifier is by itself;
* `Expression.wordOperator` — what an identifier stands for.

Main results:

* `Expression.pieces_identifier` — an identifier is one word;
* `Expression.parse_identifier`, `Expression.eval_identifier` — what it is read as, and comes to;
* `Environment.compile_recall` — **a default that is the name of a declared variable**;
* `Environment.recall_ne_of_truth_word` — a variable that no expression reads.
-/

import HttpProbe.Proofs.Seeding

set_option autoImplicit false
set_option relaxedAutoImplicit false

namespace HttpProbe

namespace Expression

open Environment (Identifier)

/-! ### One word -/

/-- No character of a name is a sign, a mark, a quote or a blank. -/
theorem scanPlain_of_continuesName {c : Char} (h : Template.continuesName c = true)
    (out : List Piece) : scanPlain c out = (.plain, pushPiece (.word c.toString) out) := by
  have hnot : ∀ d : Char, Template.continuesName d = false → c ≠ d := by
    rintro d hd rfl
    rw [h] at hd
    cases hd
  have hout : ∀ l : List Char, (l.all fun d => !Template.continuesName d) = true →
      l.contains c = false := by
    intro l hl
    rw [← Bool.not_eq_true, List.contains_iff_mem]
    intro hmem
    have hc := List.all_eq_true.1 hl c hmem
    rw [h] at hc
    cases hc
  have hsign : isSign c = false := hout _ (by decide)
  have hmark : isMark c = false := hout _ (by decide)
  have hpiece : pieceOf c = .word c.toString := by
    rw [pieceOf, hsign, hmark, Template.isBlank_of_continuesName h]
    rfl
  rw [scanPlain, if_neg (hnot _ (by decide)), if_neg (hnot _ (by decide)), hpiece]

theorem toString_append_ofList (c : Char) (cs : List Char) :
    c.toString ++ String.ofList cs = String.ofList (c :: cs) := by
  refine String.toList_injective ?_
  simp

/-- Characters of a name lengthen a word. -/
theorem scan_of_continuesName {cs : List Char} (h : ∀ c ∈ cs, Template.continuesName c = true)
    (s : String) : scan cs .plain [.word s] = .ok [.word (s ++ String.ofList cs)] := by
  induction cs generalizing s with
  | nil => rw [scan, scanEnd, String.ofList_nil, String.append_empty]
  | cons c cs ih =>
      have hc := scanPlain_of_continuesName (h c List.mem_cons_self) [.word s]
      rw [scan, scanStep, hc]
      change scan cs .plain [.word (s ++ c.toString)] = _
      rw [ih fun d hd => h d (List.mem_cons_of_mem c hd), String.append_assoc, toString_append_ofList]

/-- **An identifier is one word.** -/
theorem pieces_identifier {name : String} (h : Identifier name) : pieces name = .ok [.word name] := by
  have hchars := Template.continuesName_of_isName (Environment.isName_of_identifier h)
  obtain ⟨hfirst, hrest⟩ := h
  rename_i first rest
  rw [String.toList_ofList] at hchars
  have hc := scanPlain_of_continuesName (hchars first List.mem_cons_self) []
  rw [pieces, String.toList_ofList, scan, scanStep, hc]
  change (scan rest .plain [.word first.toString]).map List.reverse = _
  rw [scan_of_continuesName fun c hc => hchars c (List.mem_cons_of_mem first hc),
    toString_append_ofList]
  rfl

/-! ### The value of one word -/

/-- The value that an identifier is by itself: a number that is no decimal, in any case, or a truth value. -/
def literal? (name : String) : Option Scalar :=
  let word := String.ofList (name.toList.map Text.asciiLowerChar)
  if word = "inf" || word = "infinity" then some (.float (Float.ofBits 0x7FF0000000000000))
  else if word = "nan" then some (.float (Float.ofBits 0x7FF8000000000000))
  else if name = "true" then some (.bool true)
  else if name = "false" then some (.bool false)
  else none

/-- The token of a scalar. -/
def Token.ofScalar : Scalar → Token
  | .text s => .text s
  | .int n => .int n
  | .float x => .float x
  | .bool b => .bool b

section

variable {first : Char} {rest : List Char} (h : first.isAlpha = true ∨ first = '_')
include h

theorem toNat_of_first : first.toNat = 95 ∨ (65 ≤ first.toNat ∧ first.toNat ≤ 90) ∨
    (97 ≤ first.toNat ∧ first.toNat ≤ 122) := by
  rcases h with h | rfl
  · have hranges : (decide ('A'.val ≤ first.val ∧ first.val ≤ 'Z'.val) ||
        (decide ('a'.val ≤ first.val) && decide (first.val ≤ 'z'.val))) = true := h
    simp only [Bool.or_eq_true, Bool.and_eq_true, decide_eq_true_eq,
      UInt32.le_iff_toNat_le] at hranges
    exact .inr hranges
  · exact .inl rfl

/-- A letter or an underscore is no decimal digit. -/
theorem isDigit_of_first : Decimal.isDigit first = false := by
  have hrange := toNat_of_first h
  simp only [Decimal.isDigit, Decimal.isDigitOf, Decimal.digitValue, Bool.and_eq_true,
    decide_eq_true_eq, decide_eq_false_iff_not]
  split_ifs <;> omega

theorem splitSign_of_first : Decimal.splitSign (first :: rest) = (none, first :: rest) := by
  have hrange := toNat_of_first h
  unfold Decimal.splitSign
  split <;> rename_i heq
  · obtain ⟨rfl, _⟩ := List.cons.inj heq
    simp at hrange
  · obtain ⟨rfl, _⟩ := List.cons.inj heq
    simp at hrange
  · rfl

/-- An identifier is no integer. -/
theorem wordInt?_of_first : wordInt? (first :: rest) = none := by
  have hrange := toNat_of_first h
  have hdigit : Decimal.isDigitOf 10 first = false := isDigit_of_first h
  unfold wordInt?
  split <;> rename_i heq
  · obtain ⟨rfl, _⟩ := List.cons.inj heq
    simp at hrange
  · simp [Decimal.readInt?, splitSign_of_first h, Decimal.readNat?, hdigit]

/-- An identifier is no decimal. -/
theorem readDecimal?_of_first : Decimal.readDecimal? (first :: rest) = none := by
  have hrange := toNat_of_first h
  have hdigit := isDigit_of_first h
  have hpoint : first ≠ '.' := by
    rintro rfl
    simp at hrange
  simp [Decimal.readDecimal?, hdigit, hpoint]

/-- A number that is a word and no decimal. -/
theorem readFloat?_of_first : Decimal.readFloat? (first :: rest) = Decimal.readWord? (first :: rest) := by
  rw [Decimal.readFloat?, splitSign_of_first h]
  simp [readDecimal?_of_first h]

end

/-- What an identifier is by itself, as a token. -/
theorem wordValue?_identifier {name : String} (h : Identifier name) :
    wordValue? name = (literal? name).map Token.ofScalar := by
  obtain ⟨hfirst, hrest⟩ := h
  rename_i first rest
  simp only [wordValue?, literal?, String.toList_ofList, wordInt?_of_first hfirst,
    readFloat?_of_first hfirst, Decimal.readWord?]
  split_ifs <;> rfl

/-- What an identifier stands for when it is a whole expression: a value of its own, or a variable. -/
def wordOperator (name : String) : Operator :=
  match literal? name with
  | some s => .literal (.ofScalar s)
  | none => .read name

/-- **An identifier that is a whole expression.** -/
theorem parse_identifier {name : String} (h : Identifier name) :
    parse name = .ok (.mk .group [.mk (wordOperator name) []]) := by
  have htokens : tokens name = .ok [match literal? name with
      | some s => .ofScalar s
      | none => .name name] := by
    rw [tokens, pieces_identifier h]
    change joinPieces 0 [.word name] = _
    rw [joinPieces, readToken, wordValue?_identifier h]
    cases literal? name <;> rfl
  rw [parse, htokens, wordOperator]
  cases literal? name with
  | none => rfl
  | some s => cases s <;> rfl

/-- Where a variable has the name, the expression comes to its value, or to that of the word. -/
theorem eval_identifier {name : String} {node : Node} (h : Identifier name)
    (hparse : parse name = .ok node) (chance : Chance) {ctx : Bindings} {v : Value}
    (hv : ctx.get? name = some v) :
    node.eval chance ctx = .ok (((literal? name).map Value.ofScalar).getD v) := by
  rw [parse_identifier h] at hparse
  obtain rfl := Except.ok.inj hparse
  simp only [Node.eval, Node.evalAll, wordOperator]
  cases literal? name with
  | none => simp [operate, hv, bind, Except.bind]
  | some s => rfl

end Expression

namespace Environment

/-! ### A default that is a name -/

/-- What stands for a declared variable in the default of one more. -/
theorem Orderly.admits_recall {schema : List (String × String)} {ds : List Declaration}
    (h : Orderly schema ds) {d : Declaration} (hd : d ∈ ds) (hidentifier : Identifier d.name) {m : String}
    (hm : Nameable ds m) (chance : Chance) :
    Admits chance ds m d.name ((Expression.literal? d.name).getD d.default) := by
  have hvalue : (defaults ds).get? d.name = some (.ofScalar d.default) :=
    (h.context d.name _).2 ⟨d, hd, rfl, rfl⟩
  have hparse := Expression.parse_identifier hidentifier
  refine ⟨hm, _, hparse, ?_⟩
  rw [Expression.eval_identifier hidentifier hparse chance hvalue]
  cases Expression.literal? d.name <;> rfl

/-- A default that is one identifier does not draw. -/
theorem draws_recall {n : String} (h : Identifier n) (m : String) : draws [(m, n)] = false := by
  rw [draws, List.any_cons, List.any_nil, Bool.or_false, Expression.parse_identifier h,
    Expression.wordOperator]
  cases Expression.literal? n <;> rfl

/-- **A default that is the name of a declared variable.**  It can be read and has a value, which is that of
the variable, with the same kind, unless the name is a word that has a value by itself. -/
theorem compile_recall {schema : List (String × String)} (hdraws : draws schema = false)
    {chance : Chance} {env : Environment} (h : compile chance schema = .ok env) {d : Declaration}
    (hd : d ∈ env.declarations) {m : String} (hm : Nameable env.declarations m) (chance' : Chance) :
    compile chance' (schema ++ [(m, d.name)]) =
      .ok ⟨env.declarations ++ [⟨m, (Expression.literal? d.name).getD d.default⟩], []⟩ := by
  obtain ⟨ds, hds, rfl⟩ := declare_of_compile h
  rcases declares_or_stops hdraws chance chance' .nil with ⟨ds', hds', hdeclares⟩ | ⟨fault, hfault, _⟩
  · obtain rfl := Except.ok.inj (hds.symm.trans hds')
    have hidentifier := identifier_of_compile h d hd
    have hadmits := hdeclares.orderly.admits_recall hd hidentifier hm chance'
    have hboth : draws (schema ++ [(m, d.name)]) = false := by
      rw [draws_append, hdraws, draws_recall hidentifier, Bool.or_self]
    have hall : Declares chance' (schema ++ [(m, d.name)]) _ := hdeclares.snoc hadmits
    rw [compile, hall.declare_eq hboth chance']
    rfl
  · rw [defaults_nil, hds] at hfault
    cases hfault

/-- One more variable, with the value of the first. -/
theorem compile_recall_of_two_entries :
    let schema := [("a", "2"), ("b", "a * 21")]
    draws schema = false ∧
      compile (.constant 1) (schema ++ [("c", "a")]) =
        .ok ⟨[⟨"a", .int 2⟩, ⟨"b", .int 42⟩, ⟨"c", .int 2⟩], []⟩ := by
  intro schema
  have hdraws : draws schema = false := by decide +kernel
  have hcompile : compile (.constant 2) schema = .ok ⟨[⟨"a", .int 2⟩, ⟨"b", .int 42⟩], []⟩ :=
    compile_of_declarations (by decide +kernel)
  have hm : Nameable [⟨"a", .int 2⟩, ⟨"b", .int 42⟩] "c" :=
    ⟨by decide, isIdentifier_iff.1 (by decide), by decide⟩
  have hrecall := compile_recall hdraws hcompile (d := ⟨"a", .int 2⟩) (by simp) hm (.constant 1)
  have hliteral : (Expression.literal? "a").getD (.int 2) = .int 2 := by decide +kernel
  rw [hliteral] at hrecall
  exact ⟨hdraws, hrecall⟩

/-- **A variable that no expression reads**: a name of this kind is admitted, but its value is not the one
that a later default gets. -/
theorem recall_ne_of_truth_word :
    draws [("true", "1")] = false ∧
      (compile (.constant 1) [("true", "1")]).toOption.map declarations = some [⟨"true", .int 1⟩] ∧
      Nameable [⟨"true", .int 1⟩] "m" ∧
      (compile (.constant 1) ([("true", "1")] ++ [("m", "true")])).toOption.map declarations =
        some [⟨"true", .int 1⟩, ⟨"m", .bool true⟩] := by
  refine ⟨by decide +kernel, by decide +kernel, ?_, by decide +kernel⟩
  exact ⟨by decide, isIdentifier_iff.1 (by decide), by decide⟩

end Environment

end HttpProbe
