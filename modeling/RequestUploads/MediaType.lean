import RequestUploads.FileTree.Path
import RequestUploads.Text.Ascii

namespace RequestUploads.MediaType

/-- Common types, for the guess that the program is run with; `Supply.mediaType` may be any other. -/
def table : List (String × List String) := [
  ("application/atom+xml", ["atom"]),
  ("application/epub+zip", ["epub"]),
  ("application/gzip", ["gz"]),
  ("application/java-archive", ["jar"]),
  ("application/json", ["json", "map"]),
  ("application/ld+json", ["jsonld"]),
  ("application/msword", ["doc", "dot"]),
  ("application/octet-stream", ["bin", "dat", "exe", "iso"]),
  ("application/pdf", ["pdf"]),
  ("application/postscript", ["ai", "eps", "ps"]),
  ("application/rdf+xml", ["rdf"]),
  ("application/rss+xml", ["rss"]),
  ("application/rtf", ["rtf"]),
  ("application/sql", ["sql"]),
  ("application/vnd.android.package-archive", ["apk"]),
  ("application/vnd.ms-excel", ["xls"]),
  ("application/vnd.ms-fontobject", ["eot"]),
  ("application/vnd.ms-powerpoint", ["ppt"]),
  ("application/vnd.oasis.opendocument.presentation", ["odp"]),
  ("application/vnd.oasis.opendocument.spreadsheet", ["ods"]),
  ("application/vnd.oasis.opendocument.text", ["odt"]),
  ("application/vnd.openxmlformats-officedocument.presentationml.presentation", ["pptx"]),
  ("application/vnd.openxmlformats-officedocument.spreadsheetml.sheet", ["xlsx"]),
  ("application/vnd.openxmlformats-officedocument.wordprocessingml.document", ["docx"]),
  ("application/wasm", ["wasm"]),
  ("application/x-7z-compressed", ["7z"]),
  ("application/x-bittorrent", ["torrent"]),
  ("application/x-bzip", ["bz"]),
  ("application/x-bzip2", ["bz2"]),
  ("application/x-cdf", ["cdf"]),
  ("application/x-csh", ["csh"]),
  ("application/x-dvi", ["dvi"]),
  ("application/x-latex", ["latex"]),
  ("application/x-netcdf", ["nc"]),
  ("application/x-rar-compressed", ["rar"]),
  ("application/x-sh", ["sh"]),
  ("application/x-shockwave-flash", ["swf"]),
  ("application/x-tar", ["tar"]),
  ("application/x-tex", ["tex"]),
  ("application/x-xz", ["xz"]),
  ("application/xhtml+xml", ["xhtml"]),
  ("application/zip", ["zip"]),
  ("audio/aac", ["aac"]),
  ("audio/basic", ["au", "snd"]),
  ("audio/flac", ["flac"]),
  ("audio/mpeg", ["mp3"]),
  ("audio/ogg", ["oga", "ogg"]),
  ("audio/wav", ["wav"]),
  ("font/otf", ["otf"]),
  ("font/ttf", ["ttf"]),
  ("font/woff", ["woff"]),
  ("font/woff2", ["woff2"]),
  ("image/bmp", ["bmp", "dib"]),
  ("image/gif", ["gif"]),
  ("image/jpeg", ["jpe", "jpeg", "jpg"]),
  ("image/png", ["png"]),
  ("image/svg+xml", ["svg", "svgz"]),
  ("image/tiff", ["tif", "tiff"]),
  ("image/webp", ["webp"]),
  ("image/x-icon", ["ico"]),
  ("message/rfc822", ["eml", "mht", "mhtml"]),
  ("text/calendar", ["ics"]),
  ("text/css", ["css"]),
  ("text/csv", ["csv"]),
  ("text/html", ["htm", "html"]),
  ("text/javascript", ["js", "mjs"]),
  ("text/markdown", ["markdown", "md"]),
  ("text/plain", ["asm", "c", "cc", "conf", "cpp", "cs", "cxx", "def", "h", "hpp", "ini", "log",
    "py", "text", "txt"]),
  ("text/tab-separated-values", ["tsv"]),
  ("text/x-toml", ["toml"]),
  ("text/x-yaml", ["yaml", "yml"]),
  ("text/xml", ["dtd", "xml", "xsd", "xsl", "xslt"]),
  ("video/3gpp", ["3gp", "3gpp"]),
  ("video/3gpp2", ["3g2", "3gp2"]),
  ("video/mp4", ["mp4", "mp4v"]),
  ("video/mpeg", ["mpe", "mpeg", "mpg"]),
  ("video/ogg", ["ogv"]),
  ("video/quicktime", ["mov", "qt"]),
  ("video/webm", ["webm"]),
  ("video/x-flv", ["flv"]),
  ("video/x-matroska", ["mkv"]),
  ("video/x-msvideo", ["avi"])]

def ofExtension? (extension : String) : Option String :=
  let small := String.ofList (Ascii.lower extension.toList)
  (table.find? fun entry => entry.2.contains small).map (·.1)

def ofPath? (path : String) : Option String :=
  ((FilePath.lastName? path).bind FilePath.extension?).bind ofExtension?

end RequestUploads.MediaType
