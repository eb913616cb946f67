import RunLog.Binding

/-!
# Links to logs

The link to a log comes with a header that names the backend.  The values for it are composed of
those a provider gives and those of the log; the link is rendered from them.  Providers, renderers
and the language of templates are not part of the program, which knows what they give.
-/

namespace RunLog

/-- Where the values for all logs come from. -/
structure Provider where
  /-- The values. -/
  bindings : Except Failure Bindings

namespace Provider

/-- Always the same values. -/
def fixed (bindings : Bindings) : Provider :=
  ⟨.ok bindings⟩

/-- Something that fails. -/
def failing (failure : Failure) : Provider :=
  ⟨.error failure⟩

/-- Left to be defined. -/
def undefined : Provider :=
  failing (.malformed .undefinedOperation)

/-- The values together with those of a log, which win. -/
def compose (provider : Provider) (ofLog : LocalBindings) : Except Failure Bindings :=
  provider.bindings.map fun bindings => bindings.update ofLog.toBindings

end Provider

/-- How a link is rendered. -/
structure Renderer where
  /-- The text for some values. -/
  render : Bindings → Except Failure Text

namespace Renderer

/-- Always the same value. -/
def fixed (value : Json) : Renderer :=
  ⟨fun _ => .ok value.display⟩

/-- Not at all. -/
def failing (failure : Failure) : Renderer :=
  ⟨fun _ => .error failure⟩

/-- The link for some values.  Failures of rendering say so; others pass. -/
def link (renderer : Renderer) (bindings : Bindings) : Except Failure Text :=
  (renderer.render bindings).mapError Failure.whileRendering

end Renderer

/-- A language of templates: what renders a template, or why its text is none. -/
abbrev TemplateEngine := Text → Except Failure (Bindings → Except Failure Text)

/-- The renderer for the text of a template.  Failures of the template say so; others pass. -/
def TemplateEngine.renderer (engine : TemplateEngine) (source : Text) : Except Failure Renderer :=
  ((engine source).mapError Failure.whileCompiling).map Renderer.mk

/-- What is shown above a log. -/
structure Header where
  /-- The name of the backend. -/
  backend : Text
  /-- The link to the log. -/
  link : Text
  /-- The icon of the backend. -/
  icon : Text
  deriving DecidableEq, Repr

namespace Header

/-- The text of a value, empty if there is none. -/
def textOf (name : Text) (bindings : Bindings) : Except Failure Text :=
  match bindings.get? name with
  | some value => value.display
  | none => .ok []

/-- The header of a log. -/
def create (provider : Provider) (renderer : Renderer) (ofLog : LocalBindings) :
    Except Failure Header := do
  let bindings ← provider.compose ofLog
  let link ← renderer.link bindings
  let backend ← textOf "backendName" bindings
  let icon ← textOf "backend24x24IconUrl" bindings
  return { backend, link, icon }

end Header
end RunLog
