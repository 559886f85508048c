import CommandCompletion.Markup.Color

namespace CommandCompletion.Markup

-- What a style switches on or off.
inductive Attribute
  | bold
  | dim
  | italic
  | underline
  | blink
  | blink2
  | reverse
  | conceal
  | strike
  | underline2
  | frame
  | encircle
  | overline
deriving DecidableEq, Repr

namespace Attribute

-- All attributes, in the order in which styles name them.
def all : List Attribute :=
  [bold, dim, italic, underline, blink, blink2, reverse, conceal, strike, underline2, frame,
    encircle, overline]

def name : Attribute → String
  | bold => "bold"
  | dim => "dim"
  | italic => "italic"
  | underline => "underline"
  | blink => "blink"
  | blink2 => "blink2"
  | reverse => "reverse"
  | conceal => "conceal"
  | strike => "strike"
  | underline2 => "underline2"
  | frame => "frame"
  | encircle => "encircle"
  | overline => "overline"

-- Some attributes have a short name besides.
def shortName : Attribute → String
  | bold => "b"
  | dim => "d"
  | italic => "i"
  | underline => "u"
  | reverse => "r"
  | conceal => "c"
  | strike => "s"
  | underline2 => "uu"
  | overline => "o"
  | a => a.name

def ofWord? (word : Text) : Option Attribute :=
  all.find? fun a => word = a.name || word = a.shortName

end Attribute

-- How text looks. Of two settings of one attribute the first in the list counts.
structure Style where
  settings : List (Attribute × Bool) := []
  color : Option Text := none
  background : Option Text := none
  link : Option Text := none
deriving DecidableEq, Repr

namespace Style

-- Adds the words of a style: attributes, a color, a background behind `on`, attributes switched
-- off behind `not`, and an address behind `link`. Of two colors the last counts.
def addWords (s : Style) : List Text → Except StyleFault Style
  | [] => .ok s
  | word :: rest =>
    let small := Text.lowerCase word
    if small = "on" then
      match rest with
      | [] => .error .notStyle
      | next :: rest =>
        match Markup.color next with
        | .error fault => .error fault
        | .ok color => addWords { s with background := some color } rest
    else if small = "not" then
      match rest with
      | [] => .error .notStyle
      | next :: rest =>
        match Attribute.ofWord? next with
        | none => .error .notStyle
        | some a => addWords { s with settings := (a, false) :: s.settings } rest
    else if small = "link" then
      match rest with
      | [] => .error .notStyle
      | next :: rest => addWords { s with link := some next } rest
    else
      match Attribute.ofWord? small with
      | some a => addWords { s with settings := (a, true) :: s.settings } rest
      | none =>
        match Markup.color word with
        | .error fault => .error fault
        | .ok color => addWords { s with color := some color } rest

def ofText (text : Text) : Except StyleFault Style :=
  if Text.trim text = "none" then .ok {} else addWords {} (Text.words text)

def settingWords (s : Style) : List Text :=
  Attribute.all.flatMap fun a =>
    match s.settings.lookup a with
    | none => []
    | some true => [.ofString a.name]
    | some false => ["not", .ofString a.name]

-- A word and what stands behind it, if anything does.
def behind (word : Text) : Option Text → List Text
  | none => []
  | some text => [word, text]

-- The words of a style in a fixed order, so that equal styles have equal words.
def words (s : Style) : List Text :=
  let found :=
    s.settingWords ++ s.color.toList ++ behind "on" s.background ++ behind "link" s.link
  if found.isEmpty then ["none"] else found

def text (s : Style) : Text :=
  Text.spaced s.words

end Style

-- The name by which a tag is known. Tags that name one style have one name; names that stand for
-- no style are the same in any case.
def tagName (name : Text) : Except StyleFault (Text) :=
  match Style.ofText name with
  | .ok style => .ok style.text
  | .error .notStyle => .ok (Text.lowerCase (Text.trim name))
  | .error .notNumber => .error .notNumber

-- The names of the styles that are built in.
def builtInStyles : String := "
none reset dim bright bold strong code italic emphasize underline blink blink2 reverse strike
black red green yellow magenta cyan white inspect.attr inspect.attr.dunder inspect.callable
inspect.async_def inspect.def inspect.class inspect.error inspect.equals inspect.help inspect.doc
inspect.value.border live.ellipsis layout.tree.row layout.tree.column logging.keyword
logging.level.notset logging.level.debug logging.level.info logging.level.warning
logging.level.error logging.level.critical log.level log.time log.message log.path repr.ellipsis
repr.indent repr.error repr.str repr.brace repr.comma repr.ipv4 repr.ipv6 repr.eui48 repr.eui64
repr.tag_start repr.tag_name repr.tag_contents repr.tag_end repr.attrib_name repr.attrib_equal
repr.attrib_value repr.number repr.number_complex repr.bool_true repr.bool_false repr.none
repr.url repr.uuid repr.call repr.path repr.filename rule.line rule.text json.brace json.bool_true
json.bool_false json.null json.number json.str json.key prompt prompt.choices prompt.default
prompt.invalid prompt.invalid.choice pretty scope.border scope.key scope.key.special scope.equals
table.header table.footer table.cell table.title table.caption traceback.error
traceback.border.syntax_error traceback.border traceback.text traceback.title traceback.exc_type
traceback.exc_value traceback.offset traceback.error_range traceback.note
traceback.group.border bar.back bar.complete bar.finished bar.pulse
progress.description progress.filesize progress.filesize.total progress.download progress.elapsed
progress.percentage progress.remaining progress.data.speed progress.spinner status.spinner tree
tree.line markdown.paragraph markdown.text markdown.em markdown.emph markdown.strong markdown.code
markdown.code_block markdown.block_quote markdown.list markdown.item markdown.item.bullet
markdown.item.number markdown.hr markdown.h1.border markdown.h1 markdown.h2 markdown.h3
markdown.h4 markdown.h5 markdown.h6 markdown.h7 markdown.link markdown.link_url markdown.s
markdown.table.border markdown.table.header markdown.kbd
iso8601.date iso8601.time iso8601.timezone
"

-- What can be the style of a column. An empty text chooses none.
def checkStyle (text : Text) : Except StyleFault Unit :=
  if text.isEmpty || (Text.words builtInStyles).contains text then .ok ()
  else (Style.ofText text).map fun _ => ()

end CommandCompletion.Markup
