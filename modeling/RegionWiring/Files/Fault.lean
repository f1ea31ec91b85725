namespace RegionWiring

inductive FileFault where
  | missing
  | notDirectory
  | isDirectory
  | exists
  | busy
  | notEmpty
  | nameTooLong
  | nulInPath
  | undecodable
  | other (reason : String)
deriving DecidableEq

def FileFault.message : FileFault → String
  | .missing => "No such file or directory (os error 2)"
  | .notDirectory => "Not a directory (os error 20)"
  | .isDirectory => "Is a directory (os error 21)"
  | .exists => "File exists (os error 17)"
  | .busy => "Device or resource busy (os error 16)"
  | .notEmpty => "Directory not empty (os error 39)"
  | .nameTooLong => "File name too long (os error 36)"
  | .nulInPath => "file name contained an unexpected NUL byte"
  | .undecodable => "stream did not contain valid UTF-8"
  | .other reason => reason

end RegionWiring
