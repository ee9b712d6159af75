import TagGrammar.Text.Case

/-!
# The markup vocabulary

A component type declares properties of its own and inherits the rest from its base type. The
chain of base types ends in the root type, which is implicit. Properties surface in markup as
attributes, whose values are free text or one of a list of tokens.
-/

namespace TagGrammar

/-! ## Properties and value domains -/

/-- The declared value type of a property. -/
inductive PropertyType where
  | int
  | long
  | float
  | double
  | char
  | boolean
  | string
  | number
  | color
  | font
  | icon
  | image
  | keyStroke
  | enum
  | object
  deriving DecidableEq

namespace PropertyType

def all : List PropertyType :=
  [int, long, float, double, char, boolean, string, number, color, font, icon, image, keyStroke,
    enum, object]

def word : PropertyType → String
  | int => "int"
  | long => "long"
  | float => "float"
  | double => "double"
  | char => "char"
  | boolean => "boolean"
  | string => "string"
  | number => "number"
  | color => "color"
  | font => "font"
  | icon => "icon"
  | image => "image"
  | keyStroke => "key_stroke"
  | enum => "enum"
  | object => "object"

def ofWord? (word : String) : Option PropertyType :=
  all.find? fun type => type.word = word

/-- Whether values are written as free text in markup. -/
def isText : PropertyType → Bool
  | boolean | enum | object => false
  | _ => true

/-- Whether values may be given by the key of a selector constant. -/
def isSelector : PropertyType → Bool
  | int | long => true
  | _ => false

end PropertyType

/-- A property that a type declares itself. An enumerated property names its domain. -/
structure Property where
  name : String
  type : PropertyType
  domain : Option String
  deriving DecidableEq

/-- A constant of an enumerated domain, with the key that selects it. -/
structure Constant where
  name : String
  key : String
  deriving DecidableEq

/-- The markup token of a constant's name: lower case, hyphens for underscores. -/
def tokenOfName (name : String) : String :=
  String.ofList ((Text.lower name).toList.map fun c => if c = '_' then '-' else c)

def Constant.token (constant : Constant) : String :=
  tokenOfName constant.name

/-- A list of constants under a symbolic key. -/
structure Domain where
  key : String
  constants : List Constant
  deriving DecidableEq

def Domain.keys (domain : Domain) : List String :=
  domain.constants.map Constant.key

def Domain.tokens (domain : Domain) : List String :=
  domain.constants.map Constant.token

/-! ## Component types -/

/-- The type at the end of every chain of base types. -/
def rootType : String := "java.lang.Object"

/-- A component type: its base type and the properties it declares itself. -/
structure ComponentType where
  identity : String
  base : String
  properties : List Property
  deriving DecidableEq

/-- The part of a dotted name after the last dot. -/
def simpleName (identity : String) : String :=
  String.ofList (identity.toList.reverse.takeWhile (· != '.')).reverse

def ComponentType.simpleName (type : ComponentType) : String :=
  TagGrammar.simpleName type.identity

/-- A type as it is offered for registration, possibly without a base type. -/
structure TypeOffer where
  identity : String
  base : Option String
  properties : List Property
  deriving DecidableEq

/-! ## Attributes and elements -/

inductive ValueKind where
  | text
  | boolean
  | tokens
  deriving DecidableEq

def ValueKind.word : ValueKind → String
  | text => "text"
  | boolean => "boolean"
  | tokens => "tokens"

def ValueKind.ofWord? (word : String) : Option ValueKind :=
  [text, boolean, tokens].find? fun kind => kind.word = word

/-- An attribute and the tokens its value is chosen from, if it is not free text. -/
structure Attribute where
  name : String
  kind : ValueKind
  tokens : List String
  deriving DecidableEq

def textDefinition : String := "CDATA"

def Attribute.definition (attr : Attribute) : String :=
  match attr.kind with
  | .text => textDefinition
  | .boolean | .tokens => "(" ++ "|".intercalate attr.tokens ++ ")"

/-- What may stand inside an element. -/
inductive ContentModel where
  | empty
  | any
  deriving DecidableEq

def ContentModel.word : ContentModel → String
  | empty => "EMPTY"
  | any => "ANY"

def ContentModel.ofWord? (word : String) : Option ContentModel :=
  [empty, any].find? fun model => model.word = word

/-- A tag, the type it stands for and what may stand inside its elements. -/
structure Element where
  tag : String
  identity : String
  content : ContentModel
  deriving DecidableEq

/-! ## Fixed parts of the vocabulary -/

/-- The fragment with the attributes that every element has. -/
def baseFragment : String := "org.httprpc.sierra.UILoader"

def baseAttributeNames : List String :=
  ["name", "group", "border", "padding", "title", "weight", "size", "tab-title", "tab-icon",
    "style", "style-class"]

def baseAttributes : List Attribute :=
  baseAttributeNames.map fun name => ⟨name, .text, []⟩

def booleanTokens : List String := ["true", "false"]

/-- The type of single-line text inputs. -/
def textInputType : String := "javax.swing.JTextField"

/-- The attributes that text inputs have besides those their properties give. -/
def textInputAttributes : List Attribute :=
  [⟨"placeholderText", .text, []⟩, ⟨"showClearButton", .boolean, booleanTokens⟩,
    ⟨"leadingIcon", .text, []⟩, ⟨"trailingIcon", .text, []⟩]

/-- The types whose elements, and whose descendants' elements, have content. -/
def containerTypes : List String :=
  ["javax.swing.JPanel", "javax.swing.JScrollPane", "javax.swing.JSplitPane",
    "javax.swing.JTabbedPane", "javax.swing.JToolBar", "javax.swing.JMenuBar",
    "javax.swing.JMenu", "org.httprpc.sierra.MenuButton"]

end TagGrammar
