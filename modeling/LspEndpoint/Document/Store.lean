import LspEndpoint.Document.Edit
import LspEndpoint.Text.Entries

/-!
The open documents. Opening a document that is open replaces it, closing one that is not does nothing,
and changing one that is not is an error that leaves the store as it was.
-/
namespace LspEndpoint

structure Document where
  uri : Text
  languageId : Text
  version : Int
  text : Text
deriving DecidableEq

/-- Documents under their URIs, in the order in which these were first opened. -/
structure Store where
  entries : Entries Document
deriving DecidableEq

inductive ChangeError
  | notOpen (uri : Text)
  | unencodable (e : Unencodable)
deriving DecidableEq

def ChangeError.message : ChangeError → Text
  | .notOpen uri => uri.quoted
  | .unencodable e => e.message

namespace Store

def empty : Store := ⟨[]⟩

def get? (s : Store) (uri : Text) : Option Document := s.entries.lookup uri

def contains (s : Store) (uri : Text) : Bool := (s.get? uri).isSome

def size (s : Store) : Nat := s.entries.length

/-- Puts a document under a URI. -/
def insert (s : Store) (uri : Text) (d : Document) : Store := ⟨Entries.insert uri d s.entries⟩

theorem get?_insert (s : Store) (uri u : Text) (d : Document) :
    (s.insert uri d).get? u = if u = uri then some d else s.get? u :=
  Entries.lookup_insert uri u d s.entries

def erase (s : Store) (uri : Text) : Store := ⟨Entries.erase uri s.entries⟩

theorem get?_erase (s : Store) (uri u : Text) :
    (s.erase uri).get? u = if u = uri then none else s.get? u :=
  Entries.lookup_erase uri u s.entries

def opened (p : DidOpenParams) : Document := ⟨p.uri, p.languageId, p.version, p.text⟩

def openDocument (s : Store) (p : DidOpenParams) : Store := s.insert p.uri (opened p)

/-- The document after the changes; a version is taken over only if all of them succeed. -/
def changed (d : Document) (p : DidChangeParams) : Document × Option Unencodable :=
  match d.text.applyChanges p.changes with
  | (text, none) => ({ d with text, version := p.version.getD d.version }, none)
  | (text, some e) => ({ d with text }, some e)

/-- The store after the changes, and what kept some of them from being applied. -/
def changeDocument (s : Store) (p : DidChangeParams) : Store × Option ChangeError :=
  match s.get? p.uri with
  | none => (s, some (.notOpen p.uri))
  | some d =>
    let (d', failure) := changed d p
    (s.insert p.uri d', failure.map .unencodable)

def closeDocument (s : Store) (p : DidCloseParams) : Store := s.erase p.uri

/-- The documents in the order of their URIs. -/
def sortedDocuments (s : Store) : List Document :=
  (s.entries.map Prod.snd).mergeSort fun a b => a.uri.le b.uri

end Store

end LspEndpoint
