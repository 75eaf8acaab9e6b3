import PanelLink.Text.Fusion

/-!
How many columns of a terminal a line of text takes. The text is measured from its end;
what has been measured is known by its front and by the selectors there.
-/

namespace PanelLink.Text

structure Context where
  front : Front := .plain
  emojiStyle : Bool := false
  textStyle : Bool := false
  /-- A selector that makes a quotation mark wide. -/
  wideQuote : Bool := false
deriving DecidableEq, Repr

inductive Selector where
  | emojiStyle
  | textStyle
  | wideQuote
deriving DecidableEq, Repr

def selectorOf? (character : Char) : Option Selector :=
  if character = '\uFE0F' then some .emojiStyle
  else if character = '\uFE0E' then some .textStyle
  else if character = '\uFE01' then some .wideQuote
  else none

def isQuote (character : Char) : Bool :=
  character = '\u2018' || character = '\u2019' || character = '\u201C' ||
    character = '\u201D'

namespace Context

/-- A selector hides the front, except letters that may fuse with what comes before the
selector. -/
def hidden (context : Context) : Context :=
  match context.front with
  | .letter _ => context
  | _ => {}

def select (selector : Selector) (context : Context) : Context :=
  match selector with
  | .emojiStyle =>
      match context.front with
      | .emoji .joiner | .emoji .keycap => { context with emojiStyle := true }
      | _ => { context.hidden with emojiStyle := true }
  | .textStyle => { context.hidden with textStyle := true }
  | .wideQuote => { context.hidden with wideQuote := true }

/-- The context once its emoji selector has found no character to select for. -/
def unstyled (context : Context) : Context :=
  if context.emojiStyle then { context.hidden with emojiStyle := false } else context

/-- What an emoji adds whose style is chosen by a selector: nothing if it is joined to
another one. -/
def styledColumns (context : Context) : Int :=
  match context.front with
  | .emoji .joiner | .emoji .keycap => 0
  | _ => 2

def precede (character : Char) (context : Context) : Int × Context :=
  match selectorOf? character with
  | some selector => (0, context.select selector)
  | none =>
      if context.textStyle && hasNarrowStyle character then (1, {})
      else if context.wideQuote && isQuote character then (2, {})
      else
        let addition := context.front.precede character
        (addition.columns, { front := addition.front })

def extend (character : Char) (context : Context) : Int × Context :=
  if context.emojiStyle && hasEmojiStyle character then
    (context.styledColumns, { front := .emoji .emoji })
  else if character.toNat ≤ 0xA0 then (1, {})
  else context.unstyled.precede character

end Context

def measure : List Char → Int × Context
  | [] => (0, {})
  | character :: rest =>
      let (total, context) := measure rest
      let (added, context) := context.extend character
      (added + total, context)

def width (text : List Char) : Nat := (measure text).1.toNat

end PanelLink.Text
