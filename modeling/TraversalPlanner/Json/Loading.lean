/-
  This file describes how loading a document may fail.

  Key definitions include:
    * `DocumentSource`
    * `LoadError`
-/

namespace TraversalPlanner

------------------------------------------------------------
-- Sources and Failures
------------------------------------------------------------

/- Where a document comes from: a text, or a file that is not there. -/
inductive DocumentSource where
| text : String → DocumentSource
| missing : DocumentSource
deriving DecidableEq, Repr

/- Why a document cannot be loaded. -/
inductive LoadError (F : Type) where
/- its content has a fault -/
| faulty : F → LoadError F
/- its file cannot be read -/
| unreadable : LoadError F
/- its text has the wrong form -/
| malformed : LoadError F
deriving DecidableEq, Repr

namespace DocumentSource

/- Load a document, given how to load it from its text. -/
def load
    {F α : Type}
    (ofText : String → Except (LoadError F) α) :
    DocumentSource → Except (LoadError F) α
| .text content => ofText content
| .missing => .error .unreadable

end DocumentSource

end TraversalPlanner
