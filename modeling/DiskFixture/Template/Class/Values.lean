import DiskFixture.Template.Class

/-!
The classes of values, with all that they offer.
-/

namespace DiskFixture.Template.Class

/-- What everything is. -/
def anything : Class where
  title := "object"
  name := "object"
  home := "builtins"
  ancestors := []
  measures := ⟨529664, 16, 0, 0, 0⟩
  parameters := some "()"
  doc := lines [
      "The base class of the class hierarchy.",
      "",
      "When called, it accepts no arguments and returns a new featureless",
      "instance that has no instance attributes and cannot be given any.",
      ""]
  members :=
    [maker]
    ++ slots ["__repr__", "__hash__", "__str__", "__getattribute__", "__setattr__", "__delattr__",
        "__lt__", "__le__", "__eq__", "__ne__", "__gt__", "__ge__", "__init__"]
    ++ [
      method "__reduce_ex__" (some "($self, protocol, /)") (some "Helper for pickle."),
      method "__reduce__" (some "($self, /)") (some "Helper for pickle."),
      method "__getstate__" (some "($self, /)") (some "Helper for pickle."),
      classMethod "__subclasshook__" none (lines [
        "Abstract classes can override this to customize issubclass().",
        "",
        "This is invoked early on by abc.ABCMeta.__subclasscheck__().",
        "It should return True, False or NotImplemented.  If it returns",
        "NotImplemented, the normal algorithm is used.  Otherwise, it",
        "overrides the normal algorithm (and the outcome is cached).",
        ""]),
      classMethod "__init_subclass__" none (lines [
        "This method is called when a class is subclassed.",
        "",
        "The default implementation does nothing. It may be",
        "overridden to extend subclasses.",
        ""]),
      method "__format__" (some "($self, format_spec, /)") (some "Default object formatter."),
      method "__sizeof__" (some "($self, /)") (some "Size of object in memory, in bytes."),
      method "__dir__" (some "($self, /)") (some "Default dir() implementation."),
      computed "__class__" (some "the object's class")]
    ++ [documentation]

def integers : Class where
  title := "int"
  name := "int"
  home := "builtins"
  ancestors := ["object"]
  measures := ⟨21501184, 24, 4, 0, 0⟩
  parameters := none
  doc := lines [
      "int([x]) -> integer",
      "int(x, base=10) -> integer",
      "",
      "Convert a number or string to an integer, or return 0 if no arguments",
      "are given.  If x is a number, return x.__int__().  For floating point",
      "numbers, this truncates towards zero.",
      "",
      "If x is not a number or if base is given, then x must be a string,",
      "bytes, or bytearray instance representing an integer literal in the",
      "given base.  The literal can be preceded by '+' or '-' and be surrounded",
      "by whitespace.  The base defaults to 10.  Valid bases are 0 and 2-36.",
      "Base 0 means to interpret the base from the string as an integer literal.",
      ">>> int('0b100', base=0)",
      "4"]
  members :=
    [maker]
    ++ slots ["__repr__", "__hash__", "__getattribute__", "__lt__", "__le__", "__eq__", "__ne__",
        "__gt__", "__ge__", "__add__", "__radd__", "__sub__", "__rsub__", "__mul__", "__rmul__",
        "__mod__", "__rmod__", "__divmod__", "__rdivmod__", "__pow__", "__rpow__", "__neg__",
        "__pos__", "__abs__", "__bool__", "__invert__", "__lshift__", "__rlshift__", "__rshift__",
        "__rrshift__", "__and__", "__rand__", "__xor__", "__rxor__", "__or__", "__ror__",
        "__int__", "__float__", "__floordiv__", "__rfloordiv__", "__truediv__", "__rtruediv__",
        "__index__"]
    ++ [
      method "conjugate" none (some "Returns self, the complex conjugate of any int."),
      method "bit_length" (some "($self, /)") (lines [
        "Number of bits necessary to represent self in binary.",
        "",
        ">>> bin(37)",
        "'0b100101'",
        ">>> (37).bit_length()",
        "6"]),
      method "bit_count" (some "($self, /)") (lines [
        "Number of ones in the binary representation of the absolute value of self.",
        "",
        "Also known as the population count.",
        "",
        ">>> bin(13)",
        "'0b1101'",
        ">>> (13).bit_count()",
        "3"]),
      method "to_bytes" (some "($self, /, length=1, byteorder='big', *, signed=False)") (lines [
        "Return an array of bytes representing an integer.",
        "",
        "  length",
        "    Length of bytes object to use.  An OverflowError is raised if the",
        "    integer is not representable with the given number of bytes.  Default",
        "    is length 1.",
        "  byteorder",
        "    The byte order used to represent the integer.  If byteorder is 'big',",
        "    the most significant byte is at the beginning of the byte array.  If",
        "    byteorder is 'little', the most significant byte is at the end of the",
        "    byte array.  To request the native byte order of the host system, use",
        "    `sys.byteorder' as the byte order value.  Default is to use 'big'.",
        "  signed",
        "    Determines whether two's complement is used to represent the integer.",
        "    If signed is False and a negative integer is given, an OverflowError",
        "    is raised."]),
      classMethod "from_bytes"
        (some "($type, /, bytes, byteorder='big', *, signed=False)")
        (lines [
          "Return the integer represented by the given array of bytes.",
          "",
          "  bytes",
          "    Holds the array of bytes to convert.  The argument must either",
          "    support the buffer protocol or be an iterable object producing bytes.",
          "    Bytes and bytearray are examples of built-in objects that support the",
          "    buffer protocol.",
          "  byteorder",
          "    The byte order used to represent the integer.  If byteorder is 'big',",
          "    the most significant byte is at the beginning of the byte array.  If",
          "    byteorder is 'little', the most significant byte is at the end of the",
          "    byte array.  To request the native byte order of the host system, use",
          "    `sys.byteorder' as the byte order value.  Default is to use 'big'.",
          "  signed",
          "    Indicates whether two's complement is used to represent the integer."]),
      method "as_integer_ratio" (some "($self, /)") (lines [
        "Return integer ratio.",
        "",
        "Return a pair of integers, whose ratio is exactly equal to the original int",
        "and with a positive denominator.",
        "",
        ">>> (10).as_integer_ratio()",
        "(10, 1)",
        ">>> (-10).as_integer_ratio()",
        "(-10, 1)",
        ">>> (0).as_integer_ratio()",
        "(0, 1)"]),
      method "__trunc__" none (some "Truncating an Integral returns itself."),
      method "__floor__" none (some "Flooring an Integral returns itself."),
      method "__ceil__" none (some "Ceiling of an Integral returns itself."),
      method "__round__" (some "($self, ndigits=<unrepresentable>, /)") (lines [
        "Rounding an Integral returns itself.",
        "",
        "Rounding with an ndigits argument also returns an integer."]),
      method "__getnewargs__" (some "($self, /)") none,
      method "__format__" (some "($self, format_spec, /)") none,
      method "__sizeof__" (some "($self, /)") (some "Returns size in memory, in bytes."),
      computed "real" (some "the real part of a complex number"),
      computed "imag" (some "the imaginary part of a complex number"),
      computed "numerator" (some "the numerator of a rational number in lowest terms"),
      computed "denominator" (some "the denominator of a rational number in lowest terms")]
    ++ [documentation]

def truths : Class where
  title := "bool"
  name := "bool"
  home := "builtins"
  ancestors := ["int", "object"]
  measures := ⟨21500160, 32, 4, 0, 0⟩
  parameters := none
  doc := lines [
      "bool(x) -> bool",
      "",
      "Returns True when the argument x is true, False otherwise.",
      "The builtins True and False are the only two instances of the class bool.",
      "The class bool is a subclass of the class int, and cannot be subclassed."]
  members :=
    [maker]
    ++ slots ["__repr__", "__and__", "__rand__", "__xor__", "__rxor__", "__or__", "__ror__"]
    ++ [documentation]

def floats : Class where
  title := "float"
  name := "float"
  home := "builtins"
  ancestors := ["object"]
  measures := ⟨4723968, 24, 0, 0, 0⟩
  parameters := some "(x=0, /)"
  doc := some "Convert a string or number to a floating point number, if possible."
  members :=
    [maker]
    ++ slots ["__repr__", "__hash__", "__getattribute__", "__lt__", "__le__", "__eq__", "__ne__",
        "__gt__", "__ge__", "__add__", "__radd__", "__sub__", "__rsub__", "__mul__", "__rmul__",
        "__mod__", "__rmod__", "__divmod__", "__rdivmod__", "__pow__", "__rpow__", "__neg__",
        "__pos__", "__abs__", "__bool__", "__int__", "__float__", "__floordiv__", "__rfloordiv__",
        "__truediv__", "__rtruediv__"]
    ++ [
      method "conjugate"
        (some "($self, /)")
        (some "Return self, the complex conjugate of any float."),
      method "__trunc__"
        (some "($self, /)")
        (some "Return the Integral closest to x between 0 and x."),
      method "__floor__" (some "($self, /)") (some "Return the floor as an Integral."),
      method "__ceil__" (some "($self, /)") (some "Return the ceiling as an Integral."),
      method "__round__" (some "($self, ndigits=None, /)") (lines [
        "Return the Integral closest to x, rounding half toward even.",
        "",
        "When an argument is passed, work like built-in round(x, ndigits)."]),
      method "as_integer_ratio" (some "($self, /)") (lines [
        "Return integer ratio.",
        "",
        "Return a pair of integers, whose ratio is exactly equal to the original float",
        "and with a positive denominator.",
        "",
        "Raise OverflowError on infinities and a ValueError on NaNs.",
        "",
        ">>> (10.0).as_integer_ratio()",
        "(10, 1)",
        ">>> (0.0).as_integer_ratio()",
        "(0, 1)",
        ">>> (-.25).as_integer_ratio()",
        "(-1, 4)"]),
      classMethod "fromhex" (some "($type, string, /)") (lines [
        "Create a floating-point number from a hexadecimal string.",
        "",
        ">>> float.fromhex('0x1.ffffp10')",
        "2047.984375",
        ">>> float.fromhex('-0x1p-1074')",
        "-5e-324"]),
      method "hex" (some "($self, /)") (lines [
        "Return a hexadecimal representation of a floating-point number.",
        "",
        ">>> (-0.1).hex()",
        "'-0x1.999999999999ap-4'",
        ">>> 3.14159.hex()",
        "'0x1.921f9f01b866ep+1'"]),
      method "is_integer" (some "($self, /)") (some "Return True if the float is an integer."),
      method "__getnewargs__" (some "($self, /)") none,
      classMethod "__getformat__" (some "($type, typestr, /)") none,
      method "__format__"
        (some "($self, format_spec, /)")
        (some "Formats the float according to format_spec."),
      computed "real" (some "the real part of a complex number"),
      computed "imag" (some "the imaginary part of a complex number")]
    ++ [documentation]

def texts : Class where
  title := "str"
  name := "str"
  home := "builtins"
  ancestors := ["object"]
  measures := ⟨273159424, 80, 0, 0, 0⟩
  parameters := none
  doc := lines [
      "str(object='') -> str",
      "str(bytes_or_buffer[, encoding[, errors]]) -> str",
      "",
      "Create a new string object from the given object. If encoding or",
      "errors is specified, then the object must expose a data buffer",
      "that will be decoded using the given encoding and error handler.",
      "Otherwise, returns the result of object.__str__() (if defined)",
      "or repr(object).",
      "encoding defaults to sys.getdefaultencoding().",
      "errors defaults to 'strict'."]
  members :=
    [maker]
    ++ slots ["__repr__", "__hash__", "__str__", "__getattribute__", "__lt__", "__le__", "__eq__",
        "__ne__", "__gt__", "__ge__", "__iter__", "__mod__", "__rmod__", "__len__", "__getitem__",
        "__add__", "__mul__", "__rmul__", "__contains__"]
    ++ [
      method "encode" (some "($self, /, encoding='utf-8', errors='strict')") (lines [
        "Encode the string using the codec registered for encoding.",
        "",
        "  encoding",
        "    The encoding in which to encode the string.",
        "  errors",
        "    The error handling scheme to use for encoding errors.",
        "    The default is 'strict' meaning that encoding errors raise a",
        "    UnicodeEncodeError.  Other possible values are 'ignore', 'replace' and",
        "    'xmlcharrefreplace' as well as any other name registered with",
        "    codecs.register_error that can handle UnicodeEncodeErrors."]),
      method "replace" (some "($self, old, new, count=-1, /)") (lines [
        "Return a copy with all occurrences of substring old replaced by new.",
        "",
        "  count",
        "    Maximum number of occurrences to replace.",
        "    -1 (the default value) means replace all occurrences.",
        "",
        "If the optional argument count is given, only the first count occurrences are",
        "replaced."]),
      method "split" (some "($self, /, sep=None, maxsplit=-1)") (lines [
        "Return a list of the substrings in the string, using sep as the separator string.",
        "",
        "  sep",
        "    The separator used to split the string.",
        "",
        "    When set to None (the default value), will split on any whitespace",
        "    character (including \\n \\r \\t \\f and spaces) and will discard",
        "    empty strings from the result.",
        "  maxsplit",
        "    Maximum number of splits.",
        "    -1 (the default value) means no limit.",
        "",
        "Splitting starts at the front of the string and works to the end.",
        "",
        "Note, str.split() is mainly useful for data that has been intentionally",
        "delimited.  With natural text that includes punctuation, consider using",
        "the regular expression module."]),
      method "rsplit" (some "($self, /, sep=None, maxsplit=-1)") (lines [
        "Return a list of the substrings in the string, using sep as the separator string.",
        "",
        "  sep",
        "    The separator used to split the string.",
        "",
        "    When set to None (the default value), will split on any whitespace",
        "    character (including \\n \\r \\t \\f and spaces) and will discard",
        "    empty strings from the result.",
        "  maxsplit",
        "    Maximum number of splits.",
        "    -1 (the default value) means no limit.",
        "",
        "Splitting starts at the end of the string and works to the front."]),
      method "join" (some "($self, iterable, /)") (lines [
        "Concatenate any number of strings.",
        "",
        "The string whose method is called is inserted in between each given string.",
        "The result is returned as a new string.",
        "",
        "Example: '.'.join(['ab', 'pq', 'rs']) -> 'ab.pq.rs'"]),
      method "capitalize" (some "($self, /)") (lines [
        "Return a capitalized version of the string.",
        "",
        "More specifically, make the first character have upper case and the rest lower",
        "case."]),
      method "casefold"
        (some "($self, /)")
        (some "Return a version of the string suitable for caseless comparisons."),
      method "title" (some "($self, /)") (lines [
        "Return a version of the string where each word is titlecased.",
        "",
        "More specifically, words start with uppercased characters and all remaining",
        "cased characters have lower case."]),
      method "center" (some "($self, width, fillchar=' ', /)") (lines [
        "Return a centered string of length width.",
        "",
        "Padding is done using the specified fill character (default is a space)."]),
      method "count" none (lines [
        "S.count(sub[, start[, end]]) -> int",
        "",
        "Return the number of non-overlapping occurrences of substring sub in",
        "string S[start:end].  Optional arguments start and end are",
        "interpreted as in slice notation."]),
      method "expandtabs" (some "($self, /, tabsize=8)") (lines [
        "Return a copy where all tab characters are expanded using spaces.",
        "",
        "If tabsize is not given, a tab size of 8 characters is assumed."]),
      method "find" none (lines [
        "S.find(sub[, start[, end]]) -> int",
        "",
        "Return the lowest index in S where substring sub is found,",
        "such that sub is contained within S[start:end].  Optional",
        "arguments start and end are interpreted as in slice notation.",
        "",
        "Return -1 on failure."]),
      method "partition" (some "($self, sep, /)") (lines [
        "Partition the string into three parts using the given separator.",
        "",
        "This will search for the separator in the string.  If the separator is found,",
        "returns a 3-tuple containing the part before the separator, the separator",
        "itself, and the part after it.",
        "",
        "If the separator is not found, returns a 3-tuple containing the original string",
        "and two empty strings."]),
      method "index" none (lines [
        "S.index(sub[, start[, end]]) -> int",
        "",
        "Return the lowest index in S where substring sub is found,",
        "such that sub is contained within S[start:end].  Optional",
        "arguments start and end are interpreted as in slice notation.",
        "",
        "Raises ValueError when the substring is not found."]),
      method "ljust" (some "($self, width, fillchar=' ', /)") (lines [
        "Return a left-justified string of length width.",
        "",
        "Padding is done using the specified fill character (default is a space)."]),
      method "lower"
        (some "($self, /)")
        (some "Return a copy of the string converted to lowercase."),
      method "lstrip" (some "($self, chars=None, /)") (lines [
        "Return a copy of the string with leading whitespace removed.",
        "",
        "If chars is given and not None, remove characters in chars instead."]),
      method "rfind" none (lines [
        "S.rfind(sub[, start[, end]]) -> int",
        "",
        "Return the highest index in S where substring sub is found,",
        "such that sub is contained within S[start:end].  Optional",
        "arguments start and end are interpreted as in slice notation.",
        "",
        "Return -1 on failure."]),
      method "rindex" none (lines [
        "S.rindex(sub[, start[, end]]) -> int",
        "",
        "Return the highest index in S where substring sub is found,",
        "such that sub is contained within S[start:end].  Optional",
        "arguments start and end are interpreted as in slice notation.",
        "",
        "Raises ValueError when the substring is not found."]),
      method "rjust" (some "($self, width, fillchar=' ', /)") (lines [
        "Return a right-justified string of length width.",
        "",
        "Padding is done using the specified fill character (default is a space)."]),
      method "rstrip" (some "($self, chars=None, /)") (lines [
        "Return a copy of the string with trailing whitespace removed.",
        "",
        "If chars is given and not None, remove characters in chars instead."]),
      method "rpartition" (some "($self, sep, /)") (lines [
        "Partition the string into three parts using the given separator.",
        "",
        "This will search for the separator in the string, starting at the end. If",
        "the separator is found, returns a 3-tuple containing the part before the",
        "separator, the separator itself, and the part after it.",
        "",
        "If the separator is not found, returns a 3-tuple containing two empty strings",
        "and the original string."]),
      method "splitlines" (some "($self, /, keepends=False)") (lines [
        "Return a list of the lines in the string, breaking at line boundaries.",
        "",
        "Line breaks are not included in the resulting list unless keepends is given and",
        "true."]),
      method "strip" (some "($self, chars=None, /)") (lines [
        "Return a copy of the string with leading and trailing whitespace removed.",
        "",
        "If chars is given and not None, remove characters in chars instead."]),
      method "swapcase" (some "($self, /)") (lines [
        "Convert uppercase characters to lowercase and lowercase characters to uppercase."]),
      method "translate" (some "($self, table, /)") (lines [
        "Replace each character in the string using the given translation table.",
        "",
        "  table",
        "    Translation table, which must be a mapping of Unicode ordinals to",
        "    Unicode ordinals, strings, or None.",
        "",
        "The table must implement lookup/indexing via __getitem__, for instance a",
        "dictionary or list.  If this operation raises LookupError, the character is",
        "left untouched.  Characters mapped to None are deleted."]),
      method "upper"
        (some "($self, /)")
        (some "Return a copy of the string converted to uppercase."),
      method "startswith" none (lines [
        "S.startswith(prefix[, start[, end]]) -> bool",
        "",
        "Return True if S starts with the specified prefix, False otherwise.",
        "With optional start, test S beginning at that position.",
        "With optional end, stop comparing S at that position.",
        "prefix can also be a tuple of strings to try."]),
      method "endswith" none (lines [
        "S.endswith(suffix[, start[, end]]) -> bool",
        "",
        "Return True if S ends with the specified suffix, False otherwise.",
        "With optional start, test S beginning at that position.",
        "With optional end, stop comparing S at that position.",
        "suffix can also be a tuple of strings to try."]),
      method "removeprefix" (some "($self, prefix, /)") (lines [
        "Return a str with the given prefix string removed if present.",
        "",
        "If the string starts with the prefix string, return string[len(prefix):].",
        "Otherwise, return a copy of the original string."]),
      method "removesuffix" (some "($self, suffix, /)") (lines [
        "Return a str with the given suffix string removed if present.",
        "",
        "If the string ends with the suffix string and that suffix is not empty,",
        "return string[:-len(suffix)]. Otherwise, return a copy of the original",
        "string."]),
      method "isascii" (some "($self, /)") (lines [
        "Return True if all characters in the string are ASCII, False otherwise.",
        "",
        "ASCII characters have code points in the range U+0000-U+007F.",
        "Empty string is ASCII too."]),
      method "islower" (some "($self, /)") (lines [
        "Return True if the string is a lowercase string, False otherwise.",
        "",
        "A string is lowercase if all cased characters in the string are lowercase and",
        "there is at least one cased character in the string."]),
      method "isupper" (some "($self, /)") (lines [
        "Return True if the string is an uppercase string, False otherwise.",
        "",
        "A string is uppercase if all cased characters in the string are uppercase and",
        "there is at least one cased character in the string."]),
      method "istitle" (some "($self, /)") (lines [
        "Return True if the string is a title-cased string, False otherwise.",
        "",
        "In a title-cased string, upper- and title-case characters may only",
        "follow uncased characters and lowercase characters only cased ones."]),
      method "isspace" (some "($self, /)") (lines [
        "Return True if the string is a whitespace string, False otherwise.",
        "",
        "A string is whitespace if all characters in the string are whitespace and there",
        "is at least one character in the string."]),
      method "isdecimal" (some "($self, /)") (lines [
        "Return True if the string is a decimal string, False otherwise.",
        "",
        "A string is a decimal string if all characters in the string are decimal and",
        "there is at least one character in the string."]),
      method "isdigit" (some "($self, /)") (lines [
        "Return True if the string is a digit string, False otherwise.",
        "",
        "A string is a digit string if all characters in the string are digits and there",
        "is at least one character in the string."]),
      method "isnumeric" (some "($self, /)") (lines [
        "Return True if the string is a numeric string, False otherwise.",
        "",
        "A string is numeric if all characters in the string are numeric and there is at",
        "least one character in the string."]),
      method "isalpha" (some "($self, /)") (lines [
        "Return True if the string is an alphabetic string, False otherwise.",
        "",
        "A string is alphabetic if all characters in the string are alphabetic and there",
        "is at least one character in the string."]),
      method "isalnum" (some "($self, /)") (lines [
        "Return True if the string is an alpha-numeric string, False otherwise.",
        "",
        "A string is alpha-numeric if all characters in the string are alpha-numeric and",
        "there is at least one character in the string."]),
      method "isidentifier" (some "($self, /)") none,
      method "isprintable" (some "($self, /)") (lines [
        "Return True if the string is printable, False otherwise.",
        "",
        "A string is printable if all of its characters are considered printable in",
        "repr() or if it is empty."]),
      method "zfill" (some "($self, width, /)") (lines [
        "Pad a numeric string with zeros on the left, to fill a field of the given width.",
        "",
        "The string is never truncated."]),
      method "format" none (lines [
        "S.format(*args, **kwargs) -> str",
        "",
        "Return a formatted version of S, using substitutions from args and kwargs.",
        "The substitutions are identified by braces ('\x7b' and '\x7d')."]),
      method "format_map" none (lines [
        "S.format_map(mapping) -> str",
        "",
        "Return a formatted version of S, using substitutions from mapping.",
        "The substitutions are identified by braces ('\x7b' and '\x7d')."]),
      method "__format__"
        (some "($self, format_spec, /)")
        (some "Return a formatted version of the string as described by format_spec."),
      static "maketrans" (some "(x, y=<unrepresentable>, z=<unrepresentable>, /)") (lines [
        "Return a translation table usable for str.translate().",
        "",
        "If there is only one argument, it must be a dictionary mapping Unicode",
        "ordinals (integers) or characters to Unicode ordinals, strings or None.",
        "Character keys will be then converted to ordinals.",
        "If there are two arguments, they must be strings of equal length, and",
        "in the resulting dictionary, each character in x will be mapped to the",
        "character at the same position in y. If there is a third argument, it",
        "must be a string, whose characters will be mapped to None in the result."]),
      method "__sizeof__"
        (some "($self, /)")
        (some "Return the size of the string in memory, in bytes."),
      method "__getnewargs__" none none]
    ++ [documentation]

def lists : Class where
  title := "list"
  name := "list"
  home := "builtins"
  ancestors := ["object"]
  measures := ⟨38294816, 40, 0, 0, 0⟩
  parameters := some "(iterable=(), /)"
  doc := lines [
      "Built-in mutable sequence.",
      "",
      "If no argument is given, the constructor creates a new empty list.",
      "The argument must be an iterable if specified."]
  members :=
    [maker]
    ++ slots ["__repr__"]
    ++ [unhashable]
    ++ slots ["__getattribute__", "__lt__", "__le__", "__eq__", "__ne__", "__gt__", "__ge__",
        "__iter__", "__init__", "__len__"]
    ++ [
      method "__getitem__" none (some "x.__getitem__(y) <==> x[y]")]
    ++ slots ["__setitem__", "__delitem__", "__add__", "__mul__", "__rmul__", "__contains__",
        "__iadd__", "__imul__"]
    ++ [
      method "__reversed__" (some "($self, /)") (some "Return a reverse iterator over the list."),
      method "__sizeof__"
        (some "($self, /)")
        (some "Return the size of the list in memory, in bytes."),
      method "clear" (some "($self, /)") (some "Remove all items from list."),
      method "copy" (some "($self, /)") (some "Return a shallow copy of the list."),
      method "append" (some "($self, object, /)") (some "Append object to the end of the list."),
      method "insert" (some "($self, index, object, /)") (some "Insert object before index."),
      method "extend"
        (some "($self, iterable, /)")
        (some "Extend list by appending elements from the iterable."),
      method "pop" (some "($self, index=-1, /)") (lines [
        "Remove and return item at index (default last).",
        "",
        "Raises IndexError if list is empty or index is out of range."]),
      method "remove" (some "($self, value, /)") (lines [
        "Remove first occurrence of value.",
        "",
        "Raises ValueError if the value is not present."]),
      method "index" (some "($self, value, start=0, stop=sys.maxsize, /)") (lines [
        "Return first index of value.",
        "",
        "Raises ValueError if the value is not present."]),
      method "count" (some "($self, value, /)") (some "Return number of occurrences of value."),
      method "reverse" (some "($self, /)") (some "Reverse *IN PLACE*."),
      method "sort" (some "($self, /, *, key=None, reverse=False)") (lines [
        "Sort the list in ascending order and return None.",
        "",
        "The sort is in-place (i.e. the list itself is modified) and stable (i.e. the",
        "order of two equal elements is maintained).",
        "",
        "If a key function is given, apply it once to each list item and sort them,",
        "ascending or descending, according to their function values.",
        "",
        "The reverse flag can be set to sort in descending order."]),
      classMethod "__class_getitem__" none (some "See PEP 585")]
    ++ [documentation]

def objects : Class where
  title := "dict"
  name := "dict"
  home := "builtins"
  ancestors := ["object"]
  measures := ⟨541611328, 48, 0, 0, 0⟩
  parameters := none
  doc := lines [
      "dict() -> new empty dictionary",
      "dict(mapping) -> new dictionary initialized from a mapping object's",
      "    (key, value) pairs",
      "dict(iterable) -> new dictionary initialized as if via:",
      "    d = \x7b\x7d",
      "    for k, v in iterable:",
      "        d[k] = v",
      "dict(**kwargs) -> new dictionary initialized with the name=value pairs",
      "    in the keyword argument list.  For example:  dict(one=1, two=2)"]
  members :=
    [maker]
    ++ slots ["__repr__"]
    ++ [unhashable]
    ++ slots ["__getattribute__", "__lt__", "__le__", "__eq__", "__ne__", "__gt__", "__ge__",
        "__iter__", "__init__", "__or__", "__ror__", "__ior__", "__len__"]
    ++ [
      method "__getitem__" none (some "x.__getitem__(y) <==> x[y]")]
    ++ slots ["__setitem__", "__delitem__"]
    ++ [
      method "__contains__"
        (some "($self, key, /)")
        (some "True if the dictionary has the specified key, else False."),
      method "__sizeof__" none (some "D.__sizeof__() -> size of D in memory, in bytes"),
      method "get"
        (some "($self, key, default=None, /)")
        (some "Return the value for key if key is in the dictionary, else default."),
      method "setdefault" (some "($self, key, default=None, /)") (lines [
        "Insert key with a value of default if key is not in the dictionary.",
        "",
        "Return the value for key if key is in the dictionary, else default."]),
      method "pop" (some "($self, key, default=<unrepresentable>, /)") (lines [
        "D.pop(k[,d]) -> v, remove specified key and return the corresponding value.",
        "",
        "If the key is not found, return the default if given; otherwise,",
        "raise a KeyError."]),
      method "popitem" (some "($self, /)") (lines [
        "Remove and return a (key, value) pair as a 2-tuple.",
        "",
        "Pairs are returned in LIFO (last-in, first-out) order.",
        "Raises KeyError if the dict is empty."]),
      method "keys" none (some "D.keys() -> a set-like object providing a view on D's keys"),
      method "items" none (some "D.items() -> a set-like object providing a view on D's items"),
      method "values" none (some "D.values() -> an object providing a view on D's values"),
      method "update" none (lines [
        "D.update([E, ]**F) -> None.  Update D from dict/iterable E and F.",
        "If E is present and has a .keys() method, then does:  for k in E: D[k] = E[k]",
        "If E is present and lacks a .keys() method, then does:  for k, v in E: D[k] = v",
        "In either case, this is followed by: for k in F:  D[k] = F[k]"]),
      classMethod "fromkeys"
        (some "($type, iterable, value=None, /)")
        (some "Create a new dictionary with keys from iterable and values set to value."),
      method "clear" none (some "D.clear() -> None.  Remove all items from D."),
      method "copy" none (some "D.copy() -> a shallow copy of D"),
      method "__reversed__"
        (some "($self, /)")
        (some "Return a reverse iterator over the dict keys."),
      classMethod "__class_getitem__" none (some "See PEP 585")]
    ++ [documentation]

def nothing : Class where
  title := "NoneType"
  name := "NoneType"
  home := "builtins"
  ancestors := ["object"]
  measures := ⟨528640, 16, 0, 0, 0⟩
  parameters := none
  doc := none
  members :=
    [maker]
    ++ slots ["__repr__", "__bool__"]
    ++ [documentation]

end DiskFixture.Template.Class
