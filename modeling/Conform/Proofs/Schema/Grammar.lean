import Conform.Proofs.Schema.Balance
import Conform.Schema.Tree

/-! The grammar of schema text, over tokens. A text declares a definition if its tokens, without a
pair of braces around all of them, are a list of properties. Every segment that the grammar derives
is in balance, so its semicolons are the ones that stand outside all braces. -/

namespace Conform.Schema

def spelledName (source : List Char) (ts : List Token) : String :=
  String.ofList (spanText source ts)

/-- What stands before the type of a property: the tokens of its name, a question mark if it is
optional, and a colon. -/
inductive Header (name : List Token) : Bool → List Token → Prop
  | required {colon : Token} (hne : name ≠ []) (text : ∀ t ∈ name, t.kind = .text)
      (hc : colon.kind = .colon) : Header name false (name ++ [colon])
  | optional {question colon : Token} (hne : name ≠ []) (text : ∀ t ∈ name, t.kind = .text)
      (hq : question.kind = .question) (hc : colon.kind = .colon) :
      Header name true (name ++ [question, colon])

/-- Segments between semicolons, each of them empty or a property, with `T` as the types. No name
occurs twice. -/
inductive PropertyList (source : List Char) (T : List Token → TypeExpr → Prop) :
    List Token → Definition → Prop
  | nil : PropertyList source T [] []
  | blank {semicolon : Token} {ts : List Token} {ps : Definition}
      (hs : semicolon.kind = .semicolon) (rest : PropertyList source T ts ps) :
      PropertyList source T (semicolon :: ts) ps
  | last {name head ts : List Token} {optional : Bool} {τ : TypeExpr}
      (header : Header name optional head) (type : T ts τ) :
      PropertyList source T (head ++ ts) [(spelledName source name, ⟨τ, optional⟩)]
  | cons {name head us ts : List Token} {optional : Bool} {τ : TypeExpr} {semicolon : Token}
      {ps : Definition} (header : Header name optional head) (type : T us τ)
      (hs : semicolon.kind = .semicolon) (rest : PropertyList source T ts ps)
      (new : spelledName source name ∉ Assoc.keys ps) :
      PropertyList source T (head ++ us ++ semicolon :: ts)
        ((spelledName source name, ⟨τ, optional⟩) :: ps)

inductive Denotes (source : List Char) : List Token → TypeExpr → Prop
  | named {ts : List Token} (hne : ts ≠ []) (plain : ∀ t ∈ ts, t.Plain)
      (hlast : ∀ t ∈ ts.getLast?, t.kind ≠ .arraySuffix) :
      Denotes source ts (.named (spelledName source ts))
  | array {ts : List Token} {suffix : Token} {τ : TypeExpr} (item : Denotes source ts τ)
      (hs : suffix.kind = .arraySuffix) : Denotes source (ts ++ [suffix]) (.array τ)
  | object {opening closing : Token} {ts : List Token} {ps : Definition}
      (ho : opening.kind = .openBrace) (hc : closing.kind = .closeBrace)
      (properties : PropertyList source (Denotes source) ts ps) :
      Denotes source (opening :: (ts ++ [closing])) (.object ps)

def Enclosed (all inner : List Token) : Prop :=
  ∃ opening closing : Token, all = opening :: (inner ++ [closing]) ∧
    opening.kind = .openBrace ∧ closing.kind = .closeBrace ∧ level tokenBrace 0 inner = some 0

/-- The tokens of a text without the braces that enclose all of them, if there are such. -/
inductive Body (all : List Token) : List Token → Prop
  | enclosed {inner : List Token} (h : Enclosed all inner) : Body all inner
  | bare (h : ∀ inner, ¬ Enclosed all inner) : Body all all

/-- The text is a list of properties, and not an empty one. -/
structure Declares (text : String) (d : Definition) : Prop where
  ne_nil : d ≠ []
  body : ∃ ts, Body (lexemes 0 text.toList) ts ∧
    PropertyList text.toList (Denotes text.toList) ts d

theorem PropertyList.mono {source : List Char} {T U : List Token → TypeExpr → Prop}
    {ts : List Token} {ps : Definition} (hTU : ∀ ts τ, T ts τ → U ts τ)
    (h : PropertyList source T ts ps) : PropertyList source U ts ps := by
  induction h with
  | nil => exact .nil
  | blank hs _ ih => exact .blank hs ih
  | last header type => exact .last header (hTU _ _ type)
  | cons header type hs _ new ih => exact .cons header (hTU _ _ type) hs ih new

/-- Induction on how a type is denoted: the property lists inside an object have types for which
the statement holds already. -/
theorem Denotes.induction {source : List Char} {P : List Token → TypeExpr → Prop}
    (named : ∀ ts, ts ≠ [] → (∀ t ∈ ts, t.Plain) → (∀ t ∈ ts.getLast?, t.kind ≠ .arraySuffix) →
      P ts (.named (spelledName source ts)))
    (array : ∀ ts suffix τ, suffix.kind = .arraySuffix → Denotes source ts τ → P ts τ →
      P (ts ++ [suffix]) (.array τ))
    (object : ∀ opening closing ts ps, opening.kind = .openBrace → closing.kind = .closeBrace →
      PropertyList source (fun ts τ => Denotes source ts τ ∧ P ts τ) ts ps →
      P (opening :: (ts ++ [closing])) (.object ps))
    {ts : List Token} {τ : TypeExpr} (h : Denotes source ts τ) : P ts τ := by
  refine @Denotes.rec source (fun ts τ _ => P ts τ)
    (fun ts ps _ => PropertyList source (fun ts τ => Denotes source ts τ ∧ P ts τ) ts ps)
    ?_ ?_ ?_ ?_ ?_ ?_ ?_ ts τ h
  · intro ts hne plain hlast
    exact named ts hne plain hlast
  · intro ts suffix τ item hs ih
    exact array ts suffix τ hs item ih
  · intro opening closing ts ps ho hc _ ih
    exact object opening closing ts ps ho hc ih
  · exact .nil
  · intro semicolon ts ps hs _ ih
    exact .blank hs ih
  · intro name head ts optional τ header type ih
    exact .last header ⟨type, ih⟩
  · intro name head us ts optional τ semicolon ps header type hs _ new ih ihrest
    exact .cons header ⟨type, ih⟩ hs ihrest new

end Conform.Schema
