import SearchQuery.Markup.Html

/-! # Web pages -/

namespace SearchQuery

namespace Page

def stylesheet : Text :=
  "pre.language-esquery \x7b font-family: Inconsolata, monospace; \x7d\n" ++
  ".token.string \x7b color: #4e9a06; font-weight: bold; \x7d\n" ++
  ".token.variable \x7b color: #729fcf; font-weight: bold; \x7d\n" ++
  ".token.boolean \x7b color: #c4a000; font-weight: bold; \x7d\n" ++
  ".token.number \x7b color: #ad7fa8; font-weight: bold; \x7d\n" ++
  ".token.operator \x7b color: #cc0000; font-weight: bold; \x7d\n" ++
  ".token.punctuation \x7b color: #999999; \x7d\n" ++
  ".token.keyword \x7b color: #75507b; font-weight: bold; \x7d"

/-- A whole page around some markup. The title is escaped, the markup is not. -/
def render (title markup : Text) : Text :=
  "<!DOCTYPE html>\n<html>\n<head>\n<meta charset=\"utf-8\">\n<title>" ++ Html.escape title ++
  "</title>\n<style>\n" ++ stylesheet ++
  "\n</style>\n</head>\n<body>\n" ++
  "<pre class=\"language-esquery\"><code class=\"language-esquery\">" ++ markup ++
  "</code></pre>\n</body>\n</html>\n"

end Page

end SearchQuery
