import Formulary.Token.Scan

/-!
# Formulary.Token.Stream

A stream of tokens that can be looked at before they are taken.

`TokenStream.next` takes a token, `TokenStream.peek` looks at it, and
`TokenStream.item?` hands out the tokens before the end one by one and stops
for good after the end or an error. All three read at one cursor.
-/

namespace Formulary

/-- A stream of the tokens of a text. -/
structure TokenStream where
  lexicon : Lexicon
  /-- Where the next token is scanned. -/
  cursor : Cursor
  /-- A token that was looked at and not taken yet. -/
  peeked : Option Spanned
  /-- The end or an error was handed out as the last item. -/
  exhausted : Bool
deriving Repr

namespace TokenStream

/-- The stream of the tokens of a text. -/
def ofText (lexicon : Lexicon) (text : String) : TokenStream :=
  ⟨lexicon, Cursor.ofText text, none, false⟩

/-- Take the next token. At the end this is `Token.finish` every time, and before a character
at which no token starts it is the same error every time: only white space before the character
is skipped. -/
def next (stream : TokenStream) : Except LexError Spanned × TokenStream :=
  match stream.peeked with
  | some spanned => (.ok spanned, { stream with peeked := none })
  | none =>
    match stream.lexicon.scan stream.cursor with
    | .ok (spanned, cursor) => (.ok spanned, { stream with cursor })
    | .error e => (.error e, { stream with cursor := stream.cursor.skipBlank })

/-- Look at the next token without taking it. -/
def peek (stream : TokenStream) : Except LexError Spanned × TokenStream :=
  match stream.next with
  | (.ok spanned, stream) => (.ok spanned, { stream with peeked := some spanned })
  | (.error e, stream) => (.error e, stream)

/-- The next item: a token or, as the last one, an error. There is none at the end, and none
ever after. -/
def item? (stream : TokenStream) : Option (Except LexError Spanned) × TokenStream :=
  if stream.exhausted then (none, stream)
  else
    match stream.next with
    | (.ok spanned, stream) =>
      if spanned.token = .finish then (none, { stream with exhausted := true })
      else (some (.ok spanned), stream)
    | (.error e, stream) => (some (.error e), { stream with exhausted := true })

end TokenStream

end Formulary
