/-!
# Errors

* `SiteError` lists the causes for which an operation of the library fails, grouped by where they
  arise.
* `SiteError.message` is the wording of each.
-/

namespace DocSite

/-- A field without which a record is no document. -/
inductive RequiredField where
  | id
  | title
deriving DecidableEq, Repr

/-- The name of a required field. -/
def RequiredField.name : RequiredField → String
  | id => "id"
  | title => "title"

/-- Why a path of a file tree cannot be used. What the tree does not show, such as a permission that
is missing or a defect, is reported in the words of the system. -/
inductive PathFault where
  | notFound
  | notDirectory
  | isDirectory
  | alreadyExists
  | tooManyLinks
  | nameTooLong
  | nulCharacter
  | invalidText
  | refused (message : String)
deriving DecidableEq, Repr

/-- The wording of a path's fault. -/
def PathFault.message : PathFault → String
  | notFound => "No such file or directory (os error 2)"
  | notDirectory => "Not a directory (os error 20)"
  | isDirectory => "Is a directory (os error 21)"
  | alreadyExists => "File exists (os error 17)"
  | tooManyLinks => "Too many levels of symbolic links (os error 40)"
  | nameTooLong => "File name too long (os error 36)"
  | nulCharacter => "file name contained an unexpected NUL byte"
  | invalidText => "stream did not contain valid UTF-8"
  | refused message => message

/-- Why a source yields no records. -/
inductive SourceFault where
  | down (message : String)
  | noDirectory (root : String)
  | cannotWalk (root path : String) (fault : PathFault)
  | cannotRead (path : String) (fault : PathFault)
deriving DecidableEq, Repr

/-- The wording of a source's fault. -/
def SourceFault.message : SourceFault → String
  | down message => message
  | noDirectory root => "content directory " ++ root ++ " does not exist"
  | cannotWalk root path fault =>
    "cannot walk " ++ root ++ ": IO error for operation on " ++ path ++ ": " ++ fault.message
  | cannotRead path fault => "cannot read " ++ path ++ ": " ++ fault.message

/-- Why the front matter of a page is refused. -/
inductive FrontMatterFault where
  | malformed
  | badDate (raw : String)
deriving DecidableEq, Repr

/-- The wording of a front matter's fault. -/
def FrontMatterFault.message : FrontMatterFault → String
  | malformed => "invalid front matter: "
  | badDate raw => "invalid front matter: invalid date '" ++ raw ++ "'"

/-- Why settings are refused. -/
inductive SettingsFault where
  | relativeRoute (route : String)
  | emptyCategoryOrder
  | zeroPageSize
  | malformed (path : String)
  | noHome
deriving DecidableEq, Repr

/-- The wording of a fault of settings. -/
def SettingsFault.message : SettingsFault → String
  | relativeRoute route => "route_prefix must start with '/', got '" ++ route ++ "'"
  | emptyCategoryOrder => "category_order must not be empty"
  | zeroPageSize => "page_size must be at least 1"
  | malformed path => "failed to parse " ++ path ++ ": "
  | noHome => "could not determine home directory"

/-- Why an operation fails. A fault of front matter names its page where it has one. -/
inductive SiteError where
  | missingField (record : String) (field : RequiredField)
  | source (fault : SourceFault)
  | frontMatter (page : Option String) (fault : FrontMatterFault)
  | settings (fault : SettingsFault)
  | file (quotedPath : String) (fault : PathFault)
  | emptyPages
deriving DecidableEq, Repr

/-- The wording of an error. -/
def SiteError.message : SiteError → String
  | missingField record field =>
    "record " ++ record ++ " is missing required field `" ++ field.name ++ "`"
  | source fault => "content source unavailable: " ++ fault.message
  | frontMatter none fault => "parse error: " ++ fault.message
  | frontMatter (some page) fault => "parse error: " ++ page ++ ": " ++ fault.message
  | settings fault => "config error: " ++ fault.message
  | file quotedPath fault => "I/O error at " ++ quotedPath ++ ": " ++ fault.message
  | emptyPages => "validation error: page size must be at least 1"

end DocSite
