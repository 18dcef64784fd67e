import LogFollow.Config.Basic

/-!
# Overriding configurations

Overrides replace single fields of a configuration. The lists of globs are replaced where there are
any, the patterns of entries of several lines together, and a flag can be switched on but not off.
-/

namespace LogFollow

/-- What is to be replaced in a configuration. -/
structure Overrides where
  id : Option String := none
  included : List String := []
  excluded : List String := []
  pollInterval : Option Duration := none
  startAt : Option StartAt := none
  fingerprintSize : Option Nat := none
  maxLogSize : Option Nat := none
  maxConcurrentFiles : Option Nat := none
  encoding : Option String := none
  multiline : Multiline := {}
  includeFilePath : Bool := false
  includeFileNameResolved : Bool := false
  includeFilePathResolved : Bool := false
  attributeRegex : Option String := none
  deleteAfterRead : Bool := false
deriving DecidableEq, Repr

namespace Overrides

/-- A list that replaces another one, unless it is empty. -/
def replaceList {α : Type} (new old : List α) : List α := if new.isEmpty then old else new

def apply (o : Overrides) (c : Config) : Config where
  id := o.id.getD c.id
  included := replaceList o.included c.included
  excluded := replaceList o.excluded c.excluded
  pollInterval := o.pollInterval.getD c.pollInterval
  startAt := o.startAt.getD c.startAt
  fingerprintSize := o.fingerprintSize.getD c.fingerprintSize
  maxLogSize := o.maxLogSize.getD c.maxLogSize
  maxConcurrentFiles := o.maxConcurrentFiles.getD c.maxConcurrentFiles
  encoding := o.encoding.getD c.encoding
  multiline := if o.multiline = {} then c.multiline else some o.multiline
  includeFileName := c.includeFileName
  includeFilePath := c.includeFilePath || o.includeFilePath
  includeFileNameResolved := c.includeFileNameResolved || o.includeFileNameResolved
  includeFilePathResolved := c.includeFilePathResolved || o.includeFilePathResolved
  attributeRegex := o.attributeRegex <|> c.attributeRegex
  deleteAfterRead := c.deleteAfterRead || o.deleteAfterRead

end Overrides

end LogFollow
