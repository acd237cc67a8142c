import RouteDocs.Text.Case

/-!
# Methods

A route answers to one of eight methods. Their names are read in any case and
written in capitals, except in documents, where they are written small.
-/

namespace RouteDocs.Http
inductive Method where
  | get
  | post
  | put
  | delete
  | patch
  | head
  | options
  | trace
deriving DecidableEq

namespace Method
def all : List Method := [get, post, put, delete, patch, head, options, trace]

def name : Method -> String
  | get => "GET"
  | post => "POST"
  | put => "PUT"
  | delete => "DELETE"
  | patch => "PATCH"
  | head => "HEAD"
  | options => "OPTIONS"
  | trace => "TRACE"

def key : Method -> String
  | get => "get"
  | post => "post"
  | put => "put"
  | delete => "delete"
  | patch => "patch"
  | head => "head"
  | options => "options"
  | trace => "trace"

def ofName? (name : String) : Option Method := all.find? fun method => method.name == name
end Method

def capitalized (name : String) : String := String.ofList (Text.upper name.toList)
end RouteDocs.Http
