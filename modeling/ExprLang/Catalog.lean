import ExprLang.Token.Kind

/-!
Catalogs: the lexemes that are found by their spelling, with the kinds they stand for. The order of
registration matters, since the first registration of a lexeme decides its kind.
-/
set_option autoImplicit false

namespace ExprLang

/-- A lexeme and its kind. -/
structure CatalogEntry where
  lexeme : String
  kind : Kind
deriving DecidableEq, Repr

/-- Entries in the order of their registration. -/
abbrev Catalog := List CatalogEntry

/-- The kinds of the language that have a fixed spelling: the one-character ones, then the operators
of two characters. -/
def Catalog.standardKinds : List Kind :=
  [.leftParen, .rightParen, .leftBrace, .rightBrace, .comma, .dot, .minus, .plus, .semicolon,
    .slash, .star, .bang, .equal, .greater, .less, .bangEqual, .equalEqual, .greaterEqual, .lessEqual]

/-- The catalog of the language. -/
def Catalog.standard : Catalog :=
  Catalog.standardKinds.filterMap fun kind => kind.fixedLexeme?.map fun lexeme => ⟨lexeme, kind⟩

end ExprLang
