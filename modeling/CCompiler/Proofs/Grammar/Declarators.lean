import CCompiler.Proofs.Grammar.Operators
import CCompiler.Proofs.Grammar.Specifiers

/-!
# The parser reads declarators as they are written

A declarator is written from the name outwards: each derivation is put around what stands there already,
pointers in front, arrays and functions behind. The parser finds the derivations again, in the same order.

* `writeAround` -- how derivations are written around a name;
* `Writable` -- the derivations that are written so;
* `declarator_of_words` -- the parser reads a written declarator as its name and its derivations.
-/
namespace CCompiler.Grammar

open List
open Literal (bodyOf sizeFault? value?)
open Names (initial)
open Token (word isPunct_of_kind isPunct_punct isPunct_eq)

variable {text : String} {n : Int}

/-! ## 1. Writing declarators -/

mutual

/-- A derivation as it is written. A function without parameters is one of `(void)`. -/
inductive Derivation where
  | pointer
  | array (text : String) (length : Int)
  | function (params : List Parameter)

/-- A parameter as it is written: the words of its specifiers, the type that they say, its name and its
    derivations, outermost first. -/
inductive Parameter where
  | mk (specifier : List Word) (base : TypeSpec Unit) (name : String) (derivations : List Derivation)

end

mutual

/-- What derivations stand for, outermost first. -/
def opsOf : List Derivation → List (DeclOp Unit)
  | [] => []
  | .pointer :: ds => .pointer :: opsOf ds
  | .array _ length :: ds => .array (.length length) :: opsOf ds
  | .function params :: ds => .function (typesOf params) false :: opsOf ds

/-- The types of parameters. -/
def typesOf : List Parameter → List (TypeSpec Unit)
  | [] => []
  | .mk _ base _ ds :: params => base.derive (opsOf ds) :: typesOf params

end

/-- What a suffix is put behind: a pointer stands in parentheses. -/
def suffixed (isPointer : Bool) (inner : List Word) : List Word :=
  if isPointer then punct "(" :: (inner ++ [punct ")"]) else inner

mutual

/-- Writes derivations around what stands there, outermost first; whether that is a pointer decides about
    parentheses. -/
def writeAround (isPointer : Bool) (inner : List Word) : List Derivation → List Word
  | [] => inner
  | .pointer :: ds => writeAround true (punct "*" :: inner) ds
  | .array text _ :: ds =>
    writeAround false (suffixed isPointer inner ++ [punct "[", (.intConst, text), punct "]"]) ds
  | .function params :: ds =>
    writeAround false (suffixed isPointer inner ++ punct "(" :: (paramWords params ++ [punct ")"])) ds

/-- The words between the parentheses of a function declarator. -/
def paramWords : List Parameter → List Word
  | [] => [(.keyword, "void")]
  | .mk specifier _ name ds :: params =>
    specifier ++ writeAround false [(.identifier, name)] ds ++ furtherParamWords params

/-- The words of further parameters. -/
def furtherParamWords : List Parameter → List Word
  | [] => []
  | .mk specifier _ name ds :: params =>
    punct "," :: (specifier ++ writeAround false [(.identifier, name)] ds ++ furtherParamWords params)

end

namespace Parameter

/-- The words of the specifiers of a parameter. -/
def specifier : Parameter → List Word
  | .mk specifier _ _ _ => specifier

/-- The type that the specifiers say. -/
def base : Parameter → TypeSpec Unit
  | .mk _ base _ _ => base

/-- The name of a parameter. -/
def name : Parameter → String
  | .mk _ _ name _ => name

/-- The derivations of a parameter. -/
def derivations : Parameter → List Derivation
  | .mk _ _ _ ds => ds

/-- The type of a parameter. -/
def type (p : Parameter) : TypeSpec Unit := p.base.derive (opsOf p.derivations)

end Parameter

/-- The words of the declarator of a name. -/
def declaratorWords (name : String) (ds : List Derivation) : List Word :=
  writeAround false [(.identifier, name)] ds

/-- The words of a parameter. -/
def Parameter.words (p : Parameter) : List Word := p.specifier ++ declaratorWords p.name p.derivations

theorem paramWords_cons (p : Parameter) (params : List Parameter) :
    paramWords (p :: params) = p.words ++ furtherParamWords params := by
  cases p
  rw [paramWords]
  rfl

theorem furtherParamWords_cons (p : Parameter) (params : List Parameter) :
    furtherParamWords (p :: params) = punct "," :: (p.words ++ furtherParamWords params) := by
  cases p
  rw [furtherParamWords]
  rfl

theorem typesOf_eq (params : List Parameter) : typesOf params = params.map Parameter.type := by
  induction params with
  | nil => rw [typesOf, map_nil]
  | cons p params ih =>
    cases p
    rw [typesOf, ih]
    rfl

example : declaratorWords "f" [.pointer, .function [], .pointer, .array "3" 3] =
    [punct "(", punct "*", punct "(", punct "*", (.identifier, "f"), punct ")", punct "(",
      (.keyword, "void"), punct ")", punct ")", punct "[", (.intConst, "3"), punct "]"] := by
  decide +kernel

variable {setting : Setting} {N : Names → Prop}

variable {names : Names} {ts rest : List Token} {t close : Token} {d : Nat} {mode : DeclaratorMode}

/-! ## 2. Direct declarators -/

/-- The words of specifiers in front of a parameter: a word comes first, and `void` does not stand alone. -/
def StartsParameter : List Word → Prop
  | w :: words => (w.1 = .keyword ∨ w.1 = .identifier) ∧ (w.2 = "void" → words.head? ≠ some (punct ")"))
  | [] => False

/-- A name that is declared with derivations: none that is read over. -/
def Declarable (name : String) (ds : List Derivation) : Prop :=
  name ∉ overreadWords ∧ (name = "__declspec" → ∀ params, ds.head? ≠ some (.function params))

/-- A parameter is written with specifiers of its own for its type, which is not `void`. -/
structure Parameter.WellNamed (setting : Setting) (N : Names → Prop) (p : Parameter) : Prop where
  specifies : ∀ ts, ts.map word = p.specifier → ∃ specs, Specifies setting N ts specs p.base ∧ specs.FitParameter
  starts : StartsParameter p.specifier
  declarable : Declarable p.name p.derivations
  notVoid : p.type.isVoid = false

/-- The derivations that are written: lengths are integer constants and positive, and the parameters are
    written so as well. -/
inductive Writable (setting : Setting) (N : Names → Prop) : List Derivation → Prop where
  | nil : Writable setting N []
  | pointer {ds : List Derivation} (h : Writable setting N ds) : Writable setting N (.pointer :: ds)
  | array {text : String} {length : Int} {ds : List Derivation} (hw : Whole (.intConst, text))
      (hv : value? text = .ok (some length)) (hpos : 0 < length) (h : Writable setting N ds) :
      Writable setting N (.array text length :: ds)
  | function {params : List Parameter} {ds : List Derivation}
      (hp : ∀ p ∈ params, p.WellNamed setting N) (hd : ∀ p ∈ params, Writable setting N p.derivations)
      (h : Writable setting N ds) : Writable setting N (.function params :: ds)

/-- Words are read as a direct declarator, whatever stands behind them: further suffixes may follow. -/
def Direct (setting : Setting) (N : Names → Prop) (core : List Word) (name : String)
    (ops : List (DeclOp Unit)) : Prop :=
  ∀ d mode names ts rest, mode.capture = false → N names → 16 * core.length ≤ d + 1 → ts.map word = core → ∃ d0 c0,
      Runs setting (declaratorCore (rulesWithin d) mode) ⟨ts ++ rest, names⟩ d0 c0 ∧
      Steps setting (suffixStep (rulesWithin d) mode) d0 c0 ⟨some name, ops, none⟩ ⟨rest, names⟩

variable {name : String} {core : List Word} {ops : List (DeclOp Unit)}

theorem direct_name : Direct setting N [(.identifier, name)] name [] := by
  intro d mode names ts rest _ _ _ hts
  obtain ⟨t, rfl, ht⟩ := map_eq_singleton_iff.mp hts
  obtain ⟨hkind, rfl⟩ := Prod.mk.inj ht
  refine ⟨_, _, ?_, .refl _ _⟩
  refine runs_current.bind ?_
  show Runs setting (if t.kind = .identifier then _ else _) _ _ _
  rw [if_pos hkind]
  exact runs_advance.discard.bind (.pure _)

/-! ## 3. Arrays -/

theorem sizeFault?_eq_none (h : value? text = .ok (some n)) : sizeFault? text = none := by
  unfold value? at h
  unfold sizeFault?
  by_cases hs : Literal.suffixes.contains (Literal.suffixOf text.toList)
  · rw [if_pos hs] at h
    rw [hs, Bool.not_true, if_neg Bool.false_ne_true]
    cases hb : Literal.Body.of (bodyOf text.toList) with
    | hexadecimal digits =>
      rw [hb, Literal.Body.value?] at h
      split at h
      · exact (nomatch h)
      · exact if_neg ‹_›
    | octal digits | decimal digits =>
      rw [hb, Literal.Body.value?] at h
      split at h
      · exact if_pos ‹_›
      · exact (nomatch h)
  · rw [if_neg hs] at h
    exact (nomatch h)

theorem runs_sizedBound (hv : value? text = .ok (some n)) (hpos : 0 < n) :
    Runs setting (sizedBound mode [] false (.int () text) t) c (.length n) c := by
  unfold sizedBound
  have hsize : Runs setting (sizeOf? (.int () text)) c (some n) c := by
    refine runs_names.bind ?_
    rw [evalSize?, hv]
    exact .pure _
  have hgood : (some n).any (isBadSize setting.standard) = false := by
    show (decide (n < 0) || (decide (n = 0) && _)) = false
    rw [decide_eq_false (by omega), decide_eq_false (by omega), Bool.false_and, Bool.false_or]
  rw [show literalFault? (.int () text) = none from sizeFault?_eq_none hv]
  refine hsize.bind ?_
  have hread : Runs setting read c setting c := rfl
  refine hread.bind ?_
  dsimp only
  rw [hgood]
  exact .pure _

theorem runs_boundSpecifiers (h : t.kind ≠ .keyword) :
    Runs setting boundSpecifiers ⟨t :: rest, names⟩ ([], false) ⟨t :: rest, names⟩ := by
  refine Runs.repeatStep (.refl _ _) (runs_current.bind ?_)
  have hq : isQualifier t = false := by
    unfold isQualifier
    rw [beq_eq_false_iff_ne.mpr h, Bool.false_and]
  show Runs setting (if isQualifier t = true then _ else if t.isKeyword "static" = true then _ else _) _ _ _
  rw [hq, Token.isKeyword_of_kind h]
  exact .pure _

/-- A bound is the value of the constant that is written. -/
theorem runs_arrayBound (ht : t.kind = .intConst) (hclose : close.word = punct "]")
    (hrule : Runs setting (rule .assignment) ⟨t :: close :: rest, names⟩ (.int () text)
      ⟨close :: rest, names⟩) (hv : value? text = .ok (some n)) (hpos : 0 < n) :
    Runs setting (arrayBound rule mode) ⟨t :: close :: rest, names⟩ (.length n) ⟨rest, names⟩ := by
  have hkind : t.kind ≠ .keyword := by rw [ht]; decide
  have hpunct : t.isPunct "]" = false := isPunct_of_kind (by rw [ht]; decide) _
  unfold arrayBound
  by_cases hm : mode.allowParameterBounds
  · rw [if_pos hm]
    refine (runs_boundSpecifiers hkind).bind (runs_current.bind ((runs_acceptPunct_other hpunct).bind ?_))
    exact hrule.bind ((runs_expectPunct hclose).bind (runs_sizedBound hv hpos))
  · rw [if_neg hm]
    refine (Runs.pure _).bind (runs_current.bind ((runs_acceptPunct_other hpunct).bind ?_))
    exact hrule.bind ((runs_expectPunct hclose).bind (runs_sizedBound hv hpos))

theorem direct_array (h : Direct setting N core name ops)
    (hw : Whole (.intConst, text)) (hv : value? text = .ok (some n)) (hpos : 0 < n) :
    Direct setting N (core ++ [punct "[", (.intConst, text), punct "]"]) name
      (ops ++ [.array (.length n)]) := by
  intro d mode names ts rest hmode hN hd hts
  obtain ⟨ts, us, rfl, hcore, hus⟩ := map_eq_append_iff.mp hts
  obtain ⟨opening, us, rfl, hopen, hus⟩ := map_eq_cons_iff.mp hus
  obtain ⟨t, us, rfl, ht, hus⟩ := map_eq_cons_iff.mp hus
  obtain ⟨close, rfl, hclose⟩ := map_eq_singleton_iff.mp hus
  rw [length_append, length_cons] at hd
  obtain ⟨d0, c0, hd0, hsteps⟩ := h d mode names ts (opening :: t :: close :: rest) hmode hN (by omega) hcore
  refine ⟨d0, c0, ?_, hsteps.tail ?_ ?_⟩
  · rwa [append_assoc]
  · have hint : Expressible names (.int () text) := .int hw
    have hread : ReadsWithin setting names d 1 [(.intConst, text)] (.int () text) :=
      hint.reads (by decide) (by show 4 * 1 ≤ d + 1; omega)
    have hstop : Stops 1 close := stops_punct hclose (by decide)
    have hassign := hread [t] (close :: rest) (by rw [map_singleton, ht]) hstop
    refine (runs_acceptPunct hopen).bind ?_
    exact (runs_arrayBound (congrArg Prod.fst ht) hclose hassign hv hpos).bind (.pure _)
  · simp only [length_cons]
    omega

/-! ## 4. Declarators as they are written -/

/-- The punctuators behind a declarator. -/
def closers : List String := [",", ")", ";"]

/-- A token that ends a declarator. -/
def Closes (t : Token) : Prop := ∃ text ∈ closers, t.word = punct text

theorem Closes.isPunct_eq_false (h : Closes t) (htext : text ∉ closers) : t.isPunct text = false := by
  obtain ⟨s, hs, ht⟩ := h
  rw [isPunct_punct ht, beq_eq_false_iff_ne]
  rintro rfl
  exact htext hs

theorem Direct.runs (h : Direct setting N core name ops) (hmode : mode.capture = false) (hN : N names)
    (hd : 16 * core.length ≤ d + 1) (hts : ts.map word = core) (hrest : Closes (setting.next rest)) :
    Runs setting (directDeclarator (rulesWithin d) mode) ⟨ts ++ rest, names⟩ ⟨some name, ops, none⟩
      ⟨rest, names⟩ := by
  obtain ⟨d0, c0, hd0, hsteps⟩ := h d mode names ts rest hmode hN hd hts
  refine hd0.bind (Runs.repeatStep hsteps ?_)
  refine (runs_acceptPunct_not (hrest.isPunct_eq_false (by decide))).bind ?_
  exact (runs_acceptPunct_not (hrest.isPunct_eq_false (by decide))).bind (.pure _)

/-- Words that the direct declarator of a name starts with: a parenthesis, or the name, if it is none that is
    read over. -/
def OpeningWords (name : String) : List Word → Prop
  | w :: words => w = punct "(" ∨ w = (.identifier, name) ∧ name ∉ overreadWords ∧
      (name = "__declspec" → words.head? ≠ some (punct "("))
  | [] => False

theorem OpeningWords.opens (h : OpeningWords name (ts.map word)) (hrest : Closes (setting.next rest)) :
    Opens setting (ts ++ rest) ∧ (setting.next (ts ++ rest)).isPunct "*" = false := by
  cases ts with
  | nil => exact h.elim
  | cons t ts =>
    show Opens setting (t :: (ts ++ rest)) ∧ t.isPunct "*" = false
    rcases h with ht | ⟨ht, hname, hdeclspec⟩
    · have hopen := Token.isPunct_self ht
      exact ⟨⟨calm_of_isPunct hopen, .inr (.inr hopen)⟩, (isPunct_punct ht _).trans rfl⟩
    · obtain ⟨hkind, rfl⟩ := Prod.mk.inj ht
      refine ⟨⟨.inr ⟨hkind, hname, fun hl => ?_⟩, .inl hkind⟩, isPunct_of_kind ?_ _⟩
      · cases ts with
        | nil => exact hrest.isPunct_eq_false (by decide)
        | cons u ts =>
          rw [isPunct_eq rfl, beq_eq_false_iff_ne]
          exact fun hu => hdeclspec hl (congrArg some hu)
      · rw [show t.kind = .identifier from hkind]
        decide

/-- Words are so many stars and a direct declarator, whose derivations and the pointers are some. -/
def Wrapped (setting : Setting) (N : Names → Prop) (isPointer : Bool) (inner : List Word) (name : String)
    (ops : List (DeclOp Unit)) : Prop :=
  ∃ k core coreOps, inner = replicate k (punct "*") ++ core ∧ isPointer = decide (0 < k) ∧
    ops = coreOps ++ replicate k .pointer ∧ OpeningWords name core ∧ Direct setting N core name coreOps

theorem stars_of_words (h : ts.map word = replicate k (punct "*")) :
    Stars ts k := by
  induction k generalizing ts with
  | zero =>
    rw [map_eq_nil_iff.mp h]
    exact .none
  | succ k ih =>
    obtain ⟨t, ts, rfl, ht, hts⟩ := map_eq_cons_iff.mp h
    show Stars (t :: ([] ++ ts)) (k + 1)
    exact .star (Token.isPunct_self ht) (fun _ hq => (nomatch hq)) (ih hts)

section Wrapped

variable {isPointer : Bool} {inner : List Word} (h : Wrapped setting N isPointer inner name ops)

include h

theorem Wrapped.length_pos : 0 < inner.length := by
  obtain ⟨k, core, -, rfl, -, -, hopening, -⟩ := h
  cases core with
  | nil => exact hopening.elim
  | cons _ _ =>
    rw [length_append, length_cons]
    omega

theorem Wrapped.head_ne : ∃ w words, inner = w :: words ∧ w ≠ punct ")" := by
  obtain ⟨k, core, -, rfl, -, -, hopening, -⟩ := h
  cases k with
  | zero =>
    cases core with
    | nil => exact hopening.elim
    | cons w core =>
      refine ⟨w, core, rfl, ?_⟩
      rintro rfl
      rcases hopening with h | ⟨h, -⟩
      · exact absurd h (by decide)
      · exact (nomatch h)
  | succ k => exact ⟨punct "*", replicate k (punct "*") ++ core, rfl, by decide⟩

/-- The tokens of a written declarator are stars and a direct declarator. -/
theorem Wrapped.split (hts : ts.map word = inner) (hrest : Closes (setting.next rest)) :
    ∃ k stars direct coreOps, ts = stars ++ direct ∧ Stars stars k ∧
      ops = coreOps ++ replicate k .pointer ∧ Opens setting (direct ++ rest) ∧
      (setting.next (direct ++ rest)).isPunct "*" = false ∧
      ∀ d mode names, mode.capture = false → N names → 16 * inner.length ≤ d + 1 →
        Runs setting (directDeclarator (rulesWithin d) mode) ⟨direct ++ rest, names⟩
          ⟨some name, coreOps, none⟩ ⟨rest, names⟩ := by
  obtain ⟨k, core, coreOps, rfl, -, rfl, hopening, hdirect⟩ := h
  obtain ⟨stars, direct, rfl, hstars, rfl⟩ := map_eq_append_iff.mp hts
  obtain ⟨hopens, hnot⟩ := hopening.opens hrest
  refine ⟨k, stars, direct, coreOps, rfl, stars_of_words hstars, rfl, hopens, hnot, ?_⟩
  intro d mode names hmode hN hd
  rw [length_append] at hd
  exact hdirect.runs hmode hN (by omega) rfl hrest

/-- A written declarator is read as its name and its derivations. -/
theorem Wrapped.runs (hmode : mode.capture = false) (hN : N names) (hd : 16 * inner.length ≤ d + 1)
    (hts : ts.map word = inner) (hrest : Closes (setting.next rest)) :
    Runs setting (rulesWithin (d + 1) (.declarator mode)) ⟨ts ++ rest, names⟩ ⟨some name, ops, none⟩
      ⟨rest, names⟩ := by
  obtain ⟨k, stars, direct, coreOps, rfl, hstars, rfl, hopens, hnot, hdirect⟩ := h.split hts hrest
  rw [append_assoc]
  exact runs_declarator hstars hopens.1 hnot (hdirect d mode names hmode hN hd)

end Wrapped

/-! ## 5. Parameters -/

/-- A parameter is written with specifiers, and its declarator is read as it is written. -/
def ReadableParam (setting : Setting) (N : Names → Prop) (p : Parameter) : Prop :=
  p.WellNamed setting N ∧ ∃ isPointer,
    Wrapped setting N isPointer (declaratorWords p.name p.derivations) p.name (opsOf p.derivations)

/-- The parameter that is read for a written one. -/
def Parameter.param (p : Parameter) : Param Unit := ⟨p.type, some p.name⟩

variable {p : Parameter} {params : List Parameter} {words vs : List Word} {w : Word} {ds : List Derivation}

/-- A parameter is read as it is written. -/
theorem runs_param (h : ReadableParam setting N p) (hN : N names) (hd : 16 * p.words.length ≤ d + 16)
    (hts : ts.map word = p.words) (hrest : Closes (setting.next rest)) :
    Runs setting (rulesWithin (d + 1) .param) ⟨ts ++ rest, names⟩ p.param ⟨rest, names⟩ := by
  obtain ⟨hp, isPointer, hw⟩ := h
  obtain ⟨us, vs, rfl, hus, hvs⟩ := map_eq_append_iff.mp hts
  obtain ⟨specs, hspecs, hfit⟩ := hp.specifies us hus
  obtain ⟨k, stars, direct, coreOps, rfl, hstars, hops, hopens, hnot, hdirect⟩ := hw.split hvs hrest
  have hlen : p.words.length = us.length + (declaratorWords p.name p.derivations).length := by
    rw [Parameter.words, length_append, ← hus, length_map]
  have hstarts := hp.starts
  rw [← hus] at hstarts
  have hus_pos : 0 < us.length := by
    cases us with
    | nil => exact hstarts.elim
    | cons _ _ => exact Nat.succ_pos _
  have hpos := hw.length_pos
  obtain ⟨e, rfl⟩ : ∃ e, d = e + 1 := ⟨d - 1, by omega⟩
  obtain ⟨vs, longer, hext, hdecl, htype⟩ :=
    hspecs.runs hN hstars hopens hnot (show 16 * us.length ≤ e + 1 by omega)
  have hdeclarator := runs_declarator .none hopens.1 hnot
    (hdirect e { allowVariable := true, allowParameterBounds := true } names rfl hN (by omega))
  have hnotVoid : (longer.derive (coreOps ++ [])).isVoid = false := by
    rw [append_nil, hext.derive, ← hops]
    exact hp.notVoid
  rw [append_assoc, append_assoc]
  refine (show Runs setting get _ _ _ from rfl).bind (hdecl.bind (hfit.runs_storage ?_))
  refine (runs_rejectForeign hfit.foreign _).bind ((runs_rejectAlignment hfit.alignment _).bind (htype.bind ?_))
  refine Runs.bind hdeclarator ?_
  dsimp only [Declarator.behind, replicate]
  rw [hnotVoid, append_nil, hext.derive, ← hops]
  exact .pure _

/-- The tokens of a parameter are at least two. The first is a word, and `void` has no `)` behind it. -/
theorem ReadableParam.tokens (h : ReadableParam setting N p) (hts : ts.map word = p.words) :
    ∃ t u us, ts = t :: u :: us ∧ (∀ text, t.isPunct text = false) ∧
      (t.isKeyword "void" → u.isPunct ")" = false) := by
  obtain ⟨hnamed, isPointer, hwrapped⟩ := h
  obtain ⟨v, vs, hv, hne⟩ := hwrapped.head_ne
  have hstarts := hnamed.starts
  rw [Parameter.words, hv] at hts
  generalize p.specifier = specifier at hstarts hts
  cases specifier with
  | nil => exact hstarts.elim
  | cons w ws =>
    obtain ⟨t, us, rfl, rfl, hus⟩ := map_eq_cons_iff.mp hts
    have hnot : ∀ text, t.isPunct text = false := by
      refine fun text => isPunct_of_kind ?_ text
      rcases hstarts.1 with hkind | hkind <;> rw [show t.kind = _ from hkind] <;> decide
    cases ws with
    | nil =>
      obtain ⟨u, us, rfl, rfl, -⟩ := map_eq_cons_iff.mp hus
      refine ⟨t, u, us, rfl, hnot, fun _ => ?_⟩
      exact beq_eq_false_iff_ne.mpr hne
    | cons w' ws =>
      obtain ⟨u, us, rfl, rfl, -⟩ := map_eq_cons_iff.mp hus
      refine ⟨t, u, us, rfl, hnot, fun hvoid => ?_⟩
      refine beq_eq_false_iff_ne.mpr fun hu => hstarts.2 ?_ (congrArg some hu)
      exact beq_iff_eq.mp (Bool.and_eq_true_iff.mp hvoid).2

theorem closes_further
    (hts : ts.map word = furtherParamWords params) (hclose : close.word = punct ")") :
    Closes (setting.next (ts ++ close :: rest)) := by
  cases params with
  | nil =>
    rw [furtherParamWords] at hts
    rw [map_eq_nil_iff.mp hts]
    exact ⟨")", by decide, hclose⟩
  | cons p params =>
    rw [furtherParamWords_cons] at hts
    obtain ⟨comma, ts, rfl, hcomma, -⟩ := map_eq_cons_iff.mp hts
    exact ⟨",", by decide, hcomma⟩

theorem steps_params {read : List (Param Unit)} (hp : ∀ p ∈ params, ReadableParam setting N p) (hN : N names)
    (hd : 16 * (furtherParamWords params).length ≤ d + 32)
    (hts : ts.map word = furtherParamWords params) (hclose : close.word = punct ")") :
    Steps setting (paramStep (rulesWithin (d + 1))) read ⟨ts ++ close :: rest, names⟩
      (read ++ params.map Parameter.param) ⟨close :: rest, names⟩ := by
  induction params generalizing ts read with
  | nil =>
    rw [furtherParamWords] at hts
    rw [map_eq_nil_iff.mp hts, map_nil, append_nil]
    exact .refl _ _
  | cons p params ih =>
    rw [furtherParamWords_cons] at hts hd
    obtain ⟨comma, us, rfl, hcomma, hus⟩ := map_eq_cons_iff.mp hts
    obtain ⟨us, vs, rfl, hus, hvs⟩ := map_eq_append_iff.mp hus
    rw [length_cons, length_append] at hd
    have hparam := hp p mem_cons_self
    have hbehind : Closes (setting.next (vs ++ close :: rest)) := closes_further hvs hclose
    have hread := runs_param hparam hN (show _ ≤ d + 16 by omega) hus hbehind
    have hmore := @ih vs (read ++ [p.param]) (forall_mem_cons.mp hp).2 (by omega) hvs
    obtain ⟨t, u, us, rfl, hnot, -⟩ := hparam.tokens hus
    rw [cons_append, append_assoc]
    rw [append_assoc] at hmore
    refine .head ?_ ?_ hmore
    · refine (runs_acceptPunct hcomma).bind (.bind (runs_atPunct (hnot ")")) ?_)
      exact (runs_acceptPunct_other (hnot "...")).bind (hread.bind (.pure _))
    · simp only [length_cons, length_append]
      omega

theorem runs_nextIsPunct :
    Runs setting (nextIsPunct text) ⟨t :: u :: rest, names⟩ (u.isPunct text) ⟨t :: u :: rest, names⟩ := rfl

/-- The parameters between parentheses are read as they are written. -/
theorem runs_paramList (hp : ∀ p ∈ params, ReadableParam setting N p) (hN : N names)
    (hd : 16 * (paramWords params).length ≤ d + 16) (hts : ts.map word = paramWords params)
    (hclose : close.word = punct ")") :
    Runs setting (paramList (rulesWithin (d + 1))) ⟨ts ++ close :: rest, names⟩
      ⟨params.map Parameter.param, true, false⟩ ⟨close :: rest, names⟩ := by
  cases params with
  | nil =>
    rw [paramWords] at hts
    obtain ⟨t, rfl, ht⟩ := map_eq_singleton_iff.mp hts
    have hvoid : (t.isKeyword "void" && close.isPunct ")") := by
      rw [isPunct_punct hclose]
      obtain ⟨hkind, htext⟩ := Prod.mk.inj ht
      simp only [Token.isKeyword, hkind, htext]
      rfl
    refine .bind (runs_atPunct (isPunct_eq ht ")")) ((runs_atKeyword rfl).bind ?_)
    refine runs_nextIsPunct.bind ?_
    show Runs setting (if (t.isKeyword "void" && close.isPunct ")") = true then _ else _) _ _ _
    rw [if_pos hvoid]
    exact runs_advance.discard.bind (.pure _)
  | cons p params =>
    rw [paramWords_cons] at hts hd
    obtain ⟨us, vs, rfl, hus, hvs⟩ := map_eq_append_iff.mp hts
    rw [length_append] at hd
    have hparam := hp p mem_cons_self
    have hbehind : Closes (setting.next (vs ++ close :: rest)) := closes_further hvs hclose
    have hread := runs_param hparam hN (show _ ≤ d + 16 by omega) hus hbehind
    have hsteps : Steps setting (paramStep (rulesWithin (d + 1))) [p.param] ⟨vs ++ close :: rest, names⟩
        ([p.param] ++ params.map Parameter.param) ⟨close :: rest, names⟩ :=
      steps_params (forall_mem_cons.mp hp).2 hN (by omega) hvs hclose
    have hdone : close.isPunct "," = false := (isPunct_punct hclose _).trans rfl
    have hall : Runs setting (prototypedParams (rulesWithin (d + 1))) ⟨us ++ (vs ++ close :: rest), names⟩
        ([p.param] ++ params.map Parameter.param, false) ⟨close :: rest, names⟩ :=
      hread.bind (Runs.repeatStep hsteps ((runs_acceptPunct_other hdone).bind (.pure _)))
    obtain ⟨t, u, us, rfl, hnot, hvoid⟩ := hparam.tokens hus
    have htest : (t.isKeyword "void" && u.isPunct ")") = false := by
      by_cases hv : t.isKeyword "void"
      · rw [hvoid hv, Bool.and_false]
      · rw [Bool.eq_false_iff.mpr hv, Bool.false_and]
    rw [append_assoc]
    refine .bind (runs_atPunct (hnot ")")) ((runs_atKeyword rfl).bind (runs_nextIsPunct.bind ?_))
    show Runs setting (if (t.isKeyword "void" && u.isPunct ")") = true then _ else _) _ _ _
    rw [htest]
    exact .bind (runs_atPunct (hnot "...")) (hall.bind (.pure _))

/-! ## 6. Putting derivations around a declarator -/

theorem direct_function (h : Direct setting N core name ops) (hp : ∀ p ∈ params, ReadableParam setting N p) :
    Direct setting N (core ++ punct "(" :: (paramWords params ++ [punct ")"])) name
      (ops ++ [.function (typesOf params) false]) := by
  intro d mode names ts rest hmode hN hd hts
  obtain ⟨ts, us, rfl, hcore, hus⟩ := map_eq_append_iff.mp hts
  obtain ⟨opening, us, rfl, hopen, hus⟩ := map_eq_cons_iff.mp hus
  obtain ⟨us, vs, rfl, hparams, hvs⟩ := map_eq_append_iff.mp hus
  obtain ⟨close, rfl, hclose⟩ := map_eq_singleton_iff.mp hvs
  rw [length_append, length_cons, length_append] at hd
  obtain ⟨e, rfl⟩ : ∃ e, d = e + 1 := ⟨d - 1, by omega⟩
  obtain ⟨d0, c0, hd0, hsteps⟩ :=
    h (e + 1) mode names ts (opening :: (us ++ close :: rest)) hmode hN (by omega) hcore
  have hopens : opening.isPunct "[" = false := (isPunct_punct hopen _).trans rfl
  refine ⟨d0, c0, ?_, hsteps.tail ?_ ?_⟩
  · rwa [append_assoc, cons_append, append_assoc]
  · have hlist : Runs setting (paramList (rulesWithin (e + 1))) ⟨us ++ close :: rest, names⟩ _ _ :=
      runs_paramList hp hN (by omega) hparams hclose
    refine (runs_acceptPunct_other hopens).bind ?_
    refine (runs_acceptPunct hopen).bind ?_
    rw [hmode]
    refine hlist.bind ((runs_expectPunct hclose).bind ?_)
    have hop : ParamList.op ⟨params.map Parameter.param, true, false⟩ = .function (typesOf params) false := by
      show DeclOp.function ((params.map Parameter.param).map (·.type)) false = _
      rw [typesOf_eq, map_map]
      rfl
    rw [hop]
    exact .pure _
  · simp only [length_cons, length_append]
    omega

section Wrapped

variable {isPointer : Bool} {inner : List Word}

theorem wrapped_name (h : name ∉ overreadWords) : Wrapped setting N false [(.identifier, name)] name [] :=
  ⟨0, [(.identifier, name)], [], rfl, rfl, rfl, .inr ⟨rfl, h, fun _ h => (nomatch h)⟩, direct_name⟩

/-- Without a pointer, a declarator is a direct one. -/
theorem Wrapped.of_false (h : Wrapped setting N false inner name ops) :
    OpeningWords name inner ∧ Direct setting N inner name ops := by
  obtain ⟨k, core, coreOps, rfl, hk, rfl, hopening, hdirect⟩ := h
  obtain rfl : k = 0 := by
    have := of_decide_eq_false hk.symm
    omega
  rw [replicate_zero, replicate_zero, append_nil]
  exact ⟨hopening, hdirect⟩

section

variable (h : Wrapped setting N isPointer inner name ops)

include h

theorem Wrapped.pointer : Wrapped setting N true (punct "*" :: inner) name (ops ++ [.pointer]) := by
  obtain ⟨k, core, coreOps, rfl, -, rfl, hopening, hdirect⟩ := h
  refine ⟨k + 1, core, coreOps, rfl, (decide_eq_true (Nat.succ_pos k)).symm, ?_, hopening, hdirect⟩
  rw [append_assoc, ← replicate_succ']

/-- In parentheses, if it needs them, a declarator is a direct one. -/
theorem Wrapped.direct : Direct setting N (suffixed isPointer inner) name ops := by
  cases isPointer with
  | false => exact h.of_false.2
  | true =>
    intro d mode names ts rest hmode hN hd hts
    obtain ⟨opening, us, rfl, hopen, hus⟩ := map_eq_cons_iff.mp hts
    obtain ⟨us, vs, rfl, hinner, hvs⟩ := map_eq_append_iff.mp hus
    obtain ⟨close, rfl, hclose⟩ := map_eq_singleton_iff.mp hvs
    rw [suffixed, if_pos rfl, length_cons, length_append] at hd
    obtain ⟨e, rfl⟩ : ∃ e, d = e + 1 := ⟨d - 1, by omega⟩
    have hread : Runs setting (rulesWithin (e + 1) (.declarator { mode with allowAbstract := true }))
        ⟨us ++ close :: rest, names⟩ ⟨some name, ops, none⟩ ⟨close :: rest, names⟩ :=
      h.runs hmode hN (by omega) hinner ⟨")", by decide, hclose⟩
    have hkind : opening.kind ≠ .identifier := by
      rw [show opening.kind = .punctuator from congrArg Prod.fst hopen]
      decide
    refine ⟨_, _, ?_, .refl _ _⟩
    rw [cons_append, append_assoc]
    refine runs_current.bind ?_
    show Runs setting (if opening.kind = .identifier then _ else _) _ _ _
    rw [if_neg hkind]
    refine (runs_acceptPunct hopen).bind ?_
    exact hread.bind ((runs_expectPunct hclose).bind (.pure _))

theorem Wrapped.opening : OpeningWords name (suffixed isPointer inner) := by
  cases isPointer with
  | false => exact h.of_false.1
  | true => exact .inl rfl

end

/-- Only the first two words count. -/
theorem OpeningWords.congr (h : OpeningWords name (words ++ w :: us)) (hne : words ≠ []) :
    OpeningWords name (words ++ w :: vs) := by
  match words with
  | [] => exact absurd rfl hne
  | [_] => exact h
  | _ :: _ :: _ => exact h

theorem OpeningWords.ne_nil (h : OpeningWords name words) : words ≠ [] := by
  rintro rfl
  exact h

theorem OpeningWords.append (h : OpeningWords name words) (hw : w ≠ punct "(") :
    OpeningWords name (words ++ w :: vs) := by
  match words with
  | [_] => exact h.imp id fun ⟨hkind, hname, _⟩ => ⟨hkind, hname, fun _ he => hw (Option.some.inj he)⟩
  | _ :: _ :: _ => exact h

/-- A suffix behind a direct declarator makes a direct declarator. -/
theorem wrapped_of_direct (hopening : OpeningWords name core) (h : Direct setting N core name ops) :
    Wrapped setting N false core name ops :=
  ⟨0, core, ops, rfl, rfl, (append_nil _).symm, hopening, h⟩

end Wrapped

/-! ## 7. Whole declarators -/

theorem Declarable.opening (h : Declarable name ds) (params : List Parameter)
    (hparams : ds.head? = some (.function params)) :
    OpeningWords name (suffixed false [(.identifier, name)] ++ [punct "("]) :=
  .inr ⟨rfl, h.1, fun hdeclspec => absurd hparams (h.2 hdeclspec params)⟩

/-- Derivations written around a declarator are read behind its own. -/
theorem Writable.wrapped (h : Writable setting N ds) {isPointer : Bool}
    {inner : List Word} (hw : Wrapped setting N isPointer inner name ops)
    (hopen : ∀ params, ds.head? = some (.function params) →
      OpeningWords name (suffixed isPointer inner ++ [punct "("])) :
    ∃ isPointer', Wrapped setting N isPointer' (writeAround isPointer inner ds) name (ops ++ opsOf ds) := by
  induction h generalizing name isPointer inner ops with
  | nil =>
    rw [writeAround, opsOf, append_nil]
    exact ⟨isPointer, hw⟩
  | pointer _ ih =>
    rw [writeAround, opsOf, append_cons ops]
    exact ih hw.pointer fun _ _ => .inl rfl
  | array hwhole hv hpos _ ih =>
    rw [writeAround, opsOf, append_cons ops]
    have hopening : OpeningWords name (suffixed isPointer inner ++ [punct "["]) := hw.opening.append (by decide)
    refine ih (wrapped_of_direct (hopening.congr hw.opening.ne_nil)
      (direct_array hw.direct hwhole hv hpos)) fun _ _ => ?_
    show OpeningWords name ((_ ++ punct "[" :: _) ++ _)
    rw [append_assoc]
    exact hopening.congr hw.opening.ne_nil
  | @function params ds hp _ _ ihp ih =>
    rw [writeAround, opsOf, append_cons ops]
    have hreadable : ∀ p ∈ params, ReadableParam setting N p := by
      intro p hmem
      have hnamed := hp p hmem
      obtain ⟨isPointer', hwrapped⟩ := ihp p hmem (wrapped_name hnamed.declarable.1) hnamed.declarable.opening
      exact ⟨hnamed, isPointer', hwrapped⟩
    have hopening := hopen params rfl
    refine ih (wrapped_of_direct (hopening.congr hw.opening.ne_nil)
      (direct_function hw.direct hreadable)) fun _ _ => ?_
    show OpeningWords name ((_ ++ punct "(" :: _) ++ _)
    rw [append_assoc]
    exact hopening.congr hw.opening.ne_nil

theorem Writable.declares (h : Writable setting N ds) (hname : Declarable name ds) :
    ∃ isPointer, Wrapped setting N isPointer (declaratorWords name ds) name (opsOf ds) :=
  h.wrapped (wrapped_name hname.1) hname.opening

/-- **The parser reads a written declarator as its name and its derivations, in the order written**, and stops
    at the semicolon behind it, in every mode and whatever follows. -/
theorem declarator_of_words {ds : List Derivation} (h : Writable setting N ds) (hname : Declarable name ds)
    {d : Nat} {mode : DeclaratorMode} {names : Names} {ts rest : List Token} {semicolon : Token}
    (hmode : mode.capture = false) (hN : N names) (hts : ts.map Token.word = declaratorWords name ds)
    (hsemicolon : semicolon.word = punct ";") (hd : 16 * ts.length ≤ d) :
    Runs setting (rulesWithin d (.declarator mode)) ⟨ts ++ semicolon :: rest, names⟩
      ⟨some name, opsOf ds, none⟩ ⟨semicolon :: rest, names⟩ := by
  obtain ⟨isPointer, hwrapped⟩ := h.declares hname
  rw [← List.length_map Token.word, hts] at hd
  have hpos := hwrapped.length_pos
  obtain ⟨e, rfl⟩ : ∃ e, d = e + 1 := ⟨d - 1, by omega⟩
  exact hwrapped.runs hmode hN hd hts ⟨";", by decide, hsemicolon⟩

/-- A token for a word. -/
def tokenOf (w : Word) : Token := ⟨w.1, w.2, 1, 1⟩

theorem map_tokenOf (words : List Word) : (words.map tokenOf).map word = words := by
  rw [map_map]
  exact map_id words

/-- Parameters are named with the keyword of a type other than `void`. -/
theorem wellNamed_keyword (hk : (keyword, type) ∈ keywordTypes) (htype : type ≠ "void")
    (hname : Declarable name ds) :
    (Parameter.mk [(.keyword, keyword)] (TypeSpec.ofName type) name ds).WellNamed setting N where
  specifies ts hts := by
    obtain ⟨t, rfl, ht⟩ := map_eq_singleton_iff.mp hts
    exact ⟨{}, specifies_keyword hk ht, fun _ h => (nomatch h), rfl, rfl⟩
  starts := ⟨.inl rfl, fun _ h => (nomatch h)⟩
  declarable := hname
  notVoid := by
    show (type == "void" && _) = false
    rw [beq_eq_false_iff_ne.mpr htype, Bool.false_and]

/-- An array of pointers to functions of a pointer and of a pointer to an array, which return pointers. -/
def mixedDerivations : List Derivation :=
  [.array "2" 2, .pointer,
    .function [.mk [(.keyword, "int")] (TypeSpec.ofName "int") "a" [.pointer],
      .mk [(.keyword, "char")] (TypeSpec.ofName "char") "b" [.pointer, .array "3" 3]],
    .pointer]

theorem declarator_of_mixed_words :
    Runs ⟨.c11, tokenOf (.endOfFile, "")⟩
      (rulesWithin (16 * ((declaratorWords "f" mixedDerivations).map tokenOf).length) (.declarator {}))
      ⟨(declaratorWords "f" mixedDerivations).map tokenOf ++ [tokenOf (punct ";")], initial⟩
      ⟨some "f", opsOf mixedDerivations, none⟩ ⟨[tokenOf (punct ";")], initial⟩ := by
  have hnamed : ∀ {name : String} {ds : List Derivation}, name ∈ ["a", "b", "f"] → Declarable name ds := by
    intro name ds h
    have htable : ∀ name ∈ ["a", "b", "f"], name ∉ overreadWords ∧ name ≠ "__declspec" := by decide
    exact ⟨(htable name h).1, fun hd => absurd hd (htable name h).2⟩
  have hb : Writable ⟨.c11, tokenOf (.endOfFile, "")⟩ (· = initial) [.pointer, .array "3" 3] :=
    .pointer (.array (by decide +kernel) (by decide +kernel) (by decide) .nil)
  have hwritable : Writable ⟨.c11, tokenOf (.endOfFile, "")⟩ (· = initial) mixedDerivations := by
    refine .array (by decide +kernel) (by decide +kernel) (by decide) (.pointer (.function ?_ ?_ (.pointer .nil)))
    · refine List.forall_mem_cons.mpr ⟨?_, List.forall_mem_singleton.mpr ?_⟩
      · exact wellNamed_keyword (by decide) (by decide) (hnamed (by decide))
      · exact wellNamed_keyword (by decide) (by decide) (hnamed (by decide))
    · exact List.forall_mem_cons.mpr ⟨.pointer .nil, List.forall_mem_singleton.mpr hb⟩
  exact declarator_of_words hwritable (hnamed (by decide)) rfl rfl (map_tokenOf _) rfl (Nat.le_refl _)

/-- A parameter of type `int`. -/
def intParameter : Parameter := .mk [(.keyword, "int")] (TypeSpec.ofName "int") "x" []

/-- **`__declspec` in front of a parenthesis and `_Nullable` are no names**, although they are no type names,
    calling conventions or ignored qualifiers: the declarator behind them is read without its name. -/
theorem overread_names_are_lost :
    Writable ⟨.c11, tokenOf (.endOfFile, "")⟩ (· = initial) [.function [intParameter]] ∧
      ∀ name ∈ ["__declspec", "_Nullable"], initial.isTypedef name = false ∧
        isCallingConvention (tokenOf (.identifier, name)) = false ∧
        isIgnoredQualifier (tokenOf (.identifier, name)) = false ∧
        ¬ Runs ⟨.c11, tokenOf (.endOfFile, "")⟩ (rulesWithin 80 (.declarator {}))
          ⟨(declaratorWords name [.function [intParameter]]).map tokenOf ++ [tokenOf (punct ";")],
            initial⟩
          ⟨some name, opsOf [.function [intParameter]], none⟩ ⟨[tokenOf (punct ";")], initial⟩ := by
  have hwords : ∀ name, declaratorWords name [.function [intParameter]] =
      [(.identifier, name), punct "(", (.keyword, "int"), (.identifier, "x"), punct ")"] := by
    intro name
    simp only [declaratorWords, writeAround, intParameter, paramWords, furtherParamWords]
    rfl
  refine ⟨.function ?_ ?_ .nil, List.forall_mem_cons.mpr ⟨⟨by decide, by decide, by decide, fun h => ?_⟩,
    List.forall_mem_singleton.mpr ⟨by decide, by decide, by decide, fun h => ?_⟩⟩⟩
  · exact List.forall_mem_singleton.mpr
      (wellNamed_keyword (by decide) (by decide) ⟨by decide, fun _ _ h => (nomatch h)⟩)
  · exact List.forall_mem_singleton.mpr .nil
  · rw [hwords] at h
    have hread : Runs ⟨.c11, tokenOf (.endOfFile, "")⟩ (rulesWithin 80 (.declarator {}))
        ⟨[(.identifier, "__declspec"), punct "(", (.keyword, "int"), (.identifier, "x"), punct ")"].map tokenOf
          ++ [tokenOf (punct ";")], initial⟩ ⟨none, [], none⟩ ⟨[tokenOf (punct ";")], initial⟩ :=
      rfl
    exact (nomatch congrArg Declarator.name (hread.unique h).1)
  · rw [hwords] at h
    exact (nomatch h)

end CCompiler.Grammar
