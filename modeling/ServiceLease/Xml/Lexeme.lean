import ServiceLease.Xml.Error

/-! A text as a sequence of tokens, each with its place, up to where the text ends or
cannot be read on. What is wrong there counts only after everything before it. -/
namespace ServiceLease.Xml

/-- A token with the text from its start on and the text after it. -/
structure Lexeme (τ : Type) where
  token : τ
  start : List Char
  rest : List Char

inductive Ending where
  /-- Nothing is left; `left` characters follow the place where this shows. -/
  | complete (left : Nat)
  | broken (fault : Fault)
  deriving DecidableEq, Repr

structure Lexed (τ : Type) where
  lexemes : List (Lexeme τ)
  ending : Ending

namespace Lexed

def done (left : Nat) : Lexed τ := ⟨[], .complete left⟩

def stuck (fault : Fault) : Lexed τ := ⟨[], .broken fault⟩

def cons (l : Lexeme τ) (t : Lexed τ) : Lexed τ := ⟨l :: t.lexemes, t.ending⟩

@[simp] theorem lexemes_cons (l : Lexeme τ) (t : Lexed τ) : (cons l t).lexemes = l :: t.lexemes := rfl

@[simp] theorem ending_cons (l : Lexeme τ) (t : Lexed τ) : (cons l t).ending = t.ending := rfl

end Lexed

end ServiceLease.Xml
