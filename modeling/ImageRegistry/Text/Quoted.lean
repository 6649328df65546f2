import ImageRegistry.Text.Digits
import ImageRegistry.Text.Printable
import ImageRegistry.Text.Symbol

namespace ImageRegistry.Text

def quoteFor (text : List Symbol) : Char :=
  if text.contains (.char '\'') && !text.contains (.char '"') then '"' else '\''

def escapeHidden (code : Nat) : List Char :=
  if code < 0x100 then '\\' :: 'x' :: padded 16 2 code
  else if code < 0x10000 then '\\' :: 'u' :: padded 16 4 code
  else '\\' :: 'U' :: padded 16 8 code

def escapeChar (quote c : Char) : List Char :=
  if c = quote ∨ c = '\\' then ['\\', c]
  else if c = '\n' then ['\\', 'n']
  else if c = '\r' then ['\\', 'r']
  else if c = '\t' then ['\\', 't']
  else if isPrintable c then [c]
  else escapeHidden c.toNat

def escapeSymbol (quote : Char) : Symbol → List Char
  | .char c => escapeChar quote c
  | .half code => escapeHidden code

def quotedSymbols (text : List Symbol) : List Char :=
  let quote := quoteFor text
  quote :: text.flatMap (escapeSymbol quote) ++ [quote]

def quoted (text : List Char) : List Char :=
  quotedSymbols (symbolsOf text)

end ImageRegistry.Text
