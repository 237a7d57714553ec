import Mathlib.Tactic.Common
import OneTable.Proofs.Encoding.Escapes
import OneTable.Proofs.Encoding.Rules
import OneTable.Proofs.Encoding.Utf16

/-!
# The letters of all encodings

Every scheme but UTF-8 has a rule whose letters make up the texts, and UTF-8 needs none, because
there bytes with a text are the bytes of the text. The schemes of single bytes and those with tables
of several bytes leave ASCII alone, UTF-16 does not, and the scheme with escapes has islands.

* `OneTable.Encoding.Scheme.rule?` – the rule of a scheme;
* `OneTable.Encoding.Scheme.decode?_rule`, `OneTable.Encoding.Scheme.decode?_of_rule` – **the texts
  of a scheme are the texts of its rule**;
* `OneTable.Encoding.isSound_of_mem_all`, `OneTable.Encoding.isRegular_of_mem_all` – the rules of
  all encodings.
-/

namespace OneTable

open Multibyte

namespace Encoding

/-! ### Rules and texts -/

/-- **The rule of a scheme,** unless it is UTF-8. -/
def Scheme.rule? : Scheme → Option Rule
  | .utf8 => none
  | .utf16 order => some (Utf16.rule order)
  | .page p => some (singly p.char?)
  | .privateUse => some (singly fun b => some (privateChar b))
  | .multibyte rule => some rule
  | .escaped => some Escaped.rule
  | .unreadable => some (singly fun _ => none)

section Texts

variable {scheme : Scheme} {rule : Rule} {bytes : List UInt8} {text : List Char}

/-- Without escapes, the text of bytes is the text of the rule. -/
theorem Scheme.decode?_eq (h : scheme.rule? = some rule) (hescaped : scheme ≠ .escaped) :
    scheme.decode? bytes = Multibyte.decode? rule bytes := by
  cases scheme with
  | utf8 => cases h
  | utf16 order => cases h; exact Utf16.decode?_eq order bytes
  | page p => cases h; rw [decode?_singly]; rfl
  | privateUse =>
    cases h
    rw [decode?_singly]
    exact (List.mapM_pure (m := Option)).symm
  | multibyte rule => cases h; rfl
  | escaped => exact absurd rfl hescaped
  | unreadable =>
    cases h
    rw [decode?_singly]
    cases bytes <;> rfl

/-- **What has a text has it under the rule.** -/
theorem Scheme.decode?_rule (h : scheme.rule? = some rule)
    (htext : scheme.decode? bytes = some text) : Multibyte.decode? rule bytes = some text := by
  by_cases hescaped : scheme = .escaped
  · subst hescaped
    cases h
    exact Escaped.decode?_rule htext
  · rwa [scheme.decode?_eq h hescaped] at htext

/-- **What has a text under the rule has it,** unless its escapes are crowded. -/
theorem Scheme.decode?_of_rule (h : scheme.rule? = some rule)
    (htext : Multibyte.decode? rule bytes = some text)
    (hcrowded : scheme = .escaped → ¬Escaped.Crowded bytes) :
    scheme.decode? bytes = some text := by
  by_cases hescaped : scheme = .escaped
  · subst hescaped
    cases h
    exact Escaped.decode?_of_rule htext (hcrowded rfl)
  · rwa [scheme.decode?_eq h hescaped]

end Texts

/-! ### The rules of all encodings -/

/-- The rule of a scheme finds nothing but letters. -/
def Scheme.IsSound (scheme : Scheme) : Prop :=
  ∀ rule, scheme.rule? = some rule → Sound rule

/-- The rule of a scheme is regular. -/
def Scheme.IsRegular (scheme : Scheme) : Prop :=
  ∀ rule, scheme.rule? = some rule → Regular rule

/-- Bytes of ASCII stand for themselves under this scheme, wherever they stand for something. -/
def Scheme.leavesAscii : Scheme → Bool
  | .page _ | .privateUse | .multibyte _ | .unreadable => true
  | .utf8 | .utf16 _ | .escaped => false

theorem Scheme.IsRegular.isSound {scheme : Scheme} (h : scheme.IsRegular) : scheme.IsSound :=
  fun rule hrule => (h rule hrule).sound

theorem isRegular_page {p : Page} (hp : p ∈ Page.all) : (Scheme.page p).IsRegular := by
  rintro rule h
  cases h
  exact regular_singly (Page.char?_eq_some (Page.beyondAscii_of_mem_all p hp))

theorem isRegular_privateUse : Scheme.privateUse.IsRegular := by
  rintro rule h
  cases h
  refine regular_singly fun b c hc => ?_
  obtain rfl := Option.some.inj hc
  exact privateChar_eq b

theorem isRegular_multibyte {rule : Rule} (h : Regular rule) :
    (Scheme.multibyte rule).IsRegular := by
  rintro _ h'
  cases h'
  exact h

theorem isRegular_unreadable : Scheme.unreadable.IsRegular := by
  rintro rule h
  cases h
  exact regular_singly fun b c hc => absurd hc.symm (Option.some_ne_none c)

/-- **Encodings that leave ASCII alone have regular rules.** -/
theorem isRegular_of_mem_all :
    ∀ e ∈ all, e.scheme.leavesAscii = true → e.scheme.IsRegular := by
  have hpage : ∀ p ∈ Page.all, (Scheme.page p).IsRegular := fun p hp => isRegular_page hp
  simp only [Page.all, List.forall_mem_cons, List.not_mem_nil, false_imp_iff, implies_true,
    and_true] at hpage
  simp only [all, unicode, List.forall_mem_cons, List.not_mem_nil, false_imp_iff, implies_true,
    and_true, Scheme.leavesAscii, Bool.false_eq_true, hpage, isRegular_privateUse,
    isRegular_unreadable, isRegular_multibyte regular_gb18030, isRegular_multibyte regular_big5,
    isRegular_multibyte regular_eucJp, isRegular_multibyte regular_shiftJis,
    isRegular_multibyte regular_eucKr]

/-- **The rules of all encodings find nothing but letters.** -/
theorem isSound_of_mem_all {e : Encoding} (he : e ∈ all) : e.scheme.IsSound := by
  cases hscheme : e.scheme.leavesAscii with
  | true => exact (isRegular_of_mem_all e he hscheme).isSound
  | false =>
    intro rule hrule
    generalize e.scheme = scheme at hscheme hrule
    cases scheme with
    | utf8 => cases hrule
    | utf16 order => cases hrule; exact Utf16.sound_rule order
    | escaped => cases hrule; exact Escaped.sound_rule
    | _ => cases hscheme

end Encoding

end OneTable
