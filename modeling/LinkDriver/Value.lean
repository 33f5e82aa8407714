import LinkDriver.Text.Literal

/-!
# Values of options

An option's value is a text or blank. A value is blank when exactly two hyphens are attached to
the option: they are taken as the end of the options and leave nothing behind. A blank counts as
given, is written as an empty list, and cannot stand where a text is needed.
-/

namespace LinkDriver

/-- The value given to an option. -/
inductive Value where
  | text (content : String)
  | blank
  deriving DecidableEq, Repr

namespace Value

/-- The value as it reads inside a message. -/
def display : Value → String
  | text content => content
  | blank => "[]"

/-- The literal of a value. -/
def literal : Value → String
  | text content => Literal.ofText content
  | blank => "[]"

/-- The text of a value, unless it is blank. -/
def text? : Value → Option String
  | text content => some content
  | blank => none

/-- The text of a value, where a blank counts as the empty text. -/
def textOrEmpty : Value → String
  | text content => content
  | blank => ""

@[simp] theorem text?_text (content : String) : (text content).text? = some content := rfl

@[simp] theorem display_text (content : String) : (text content).display = content := rfl

@[simp] theorem literal_text (content : String) :
    (text content).literal = Literal.ofText content := rfl

end Value

/-- The texts of a list of values, unless one of them is blank. -/
def texts? (values : List Value) : Option (List String) :=
  values.mapM Value.text?

@[simp] theorem texts?_map_text (contents : List String) :
    texts? (contents.map Value.text) = some contents := by
  induction contents with
  | nil => rfl
  | cons content rest ih => simp_all [texts?]

/-- Values have texts unless one of them is blank. -/
theorem texts?_eq_none_iff {values : List Value} : texts? values = none ↔ .blank ∈ values := by
  induction values with
  | nil => simp [texts?]
  | cons value rest ih =>
      unfold texts? at ih ⊢
      cases value with
      | blank => simp [Value.text?]
      | text content =>
          cases hrest : rest.mapM Value.text? <;> simp_all [Value.text?]

end LinkDriver
