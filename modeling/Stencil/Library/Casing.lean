import Stencil.Library.Basic
import Stencil.Text.Case

/-!
# Case functions
-/

namespace Stencil.Library

def upper : Function := onText fun t => .text (Text.upper t)

def lower : Function := onText fun t => .text (Text.lower t)

def title : Function := onText fun t => .text (Text.title t)

def capitalize : Function := onText fun t => .text (Text.capitalize t)

def upperFirst : Function := onText fun t => .text (Text.upperFirst t)

def lowerFirst : Function := onText fun t => .text (Text.lowerFirst t)

def upperWords : Function := onText fun t => .text (Text.upperWords t)

end Stencil.Library
