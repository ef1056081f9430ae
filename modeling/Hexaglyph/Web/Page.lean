import Hexaglyph.Text.Basic
set_option autoImplicit false

/-! The page of the glyph editor: a palette, an input box and the listing, kept up to date over a
socket. -/
namespace Hexaglyph.Page

def lines : List String := [
  "<html>",
  "<head>",
  "\t<meta charset=\"utf-8\">",
  "\t<title>SkreeLang Editor</title>",
  "</head>",
  "<body style=\"background-color: #1E1E1E; color: white; font-family: sans-serif;\">",
  "\t<h1 style=\"display: inline-block;\">SkreeLang Editor</h1>",
  "\t<button id=\"translateButton\" style=\"margin-left: 50px; height: 40px; width: 120px;\">TRANSLATE</button>",
  "\t<button id=\"saveButton\" style=\"margin-left: 10px; height: 40px; width: 120px;\">SAVE .sk6</button>",
  "\t<button id=\"clearButton\" style=\"margin-left: 10px; height: 40px; width: 80px;\">CLEAR</button>",
  "\t<div id=\"palette\" style=\"margin: 10px 0;\"></div>",
  "\t<textarea id=\"input\" style=\"width: 980px; height: 120px; font-size: 1.6em; background-color: black; color: white; border: 2px solid white;\"></textarea>",
  "\t<h2>HexaLang Output</h2>",
  "\t<pre id=\"output\" style=\"width: 980px; padding: 10px; font-size: 1.2em; background-color: black; min-height: 150px; border: 2px solid white;\"></pre>",
  "\t<h2>English Translation</h2>",
  "\t<pre id=\"gloss\" style=\"width: 980px; padding: 10px; font-size: 1.2em; background-color: black; min-height: 100px; border: 2px solid white;\"></pre>",
  "",
  "\t<script>",
  "\t\tvar socket = null;",
  "\t\tvar listing = \"\";",
  "",
  "\t\tfunction connect() \x7b",
  "\t\t\tsocket = new WebSocket(\"ws://\" + window.location.host + \"/ws\");",
  "\t\t\tsocket.onopen = function() \x7b",
  "\t\t\t\tsocket.send(JSON.stringify(\x7btype: \"catalog\"\x7d));",
  "\t\t\t\x7d;",
  "\t\t\tsocket.onmessage = function(event) \x7b",
  "\t\t\t\tvar data = JSON.parse(event.data);",
  "\t\t\t\tif (data.type == \"catalog\") \x7b",
  "\t\t\t\t\tvar palette = document.getElementById(\"palette\");",
  "\t\t\t\t\tpalette.innerHTML = \"\";",
  "\t\t\t\t\tdata.glyphs.forEach(function(g) \x7b",
  "\t\t\t\t\t\tvar btn = document.createElement(\"button\");",
  "\t\t\t\t\t\tbtn.textContent = g.glyph;",
  "\t\t\t\t\t\tbtn.title = g.name + \" (\" + g.role + \"): \" + g.description;",
  "\t\t\t\t\t\tbtn.style = \"font-size: 1.4em; margin: 3px; min-width: 70px; height: 50px;\";",
  "\t\t\t\t\t\tbtn.onclick = function() \x7b",
  "\t\t\t\t\t\t\tvar input = document.getElementById(\"input\");",
  "\t\t\t\t\t\t\tinput.value = input.value.trim() + (input.value.trim() ? \" \" : \"\") + g.glyph;",
  "\t\t\t\t\t\t\x7d;",
  "\t\t\t\t\t\tpalette.appendChild(btn);",
  "\t\t\t\t\t\x7d);",
  "\t\t\t\t\x7d else if (data.type == \"translation\") \x7b",
  "\t\t\t\t\tlisting = data.result.listing;",
  "\t\t\t\t\tvar out = listing;",
  "\t\t\t\t\tdata.result.diagnostics.forEach(function(d) \x7b",
  "\t\t\t\t\t\tout += \"\\n! \" + d.message;",
  "\t\t\t\t\t\x7d);",
  "\t\t\t\t\tdocument.getElementById(\"output\").textContent = out;",
  "\t\t\t\t\tdocument.getElementById(\"gloss\").textContent = data.result.gloss.join(\"\\n\");",
  "\t\t\t\t\x7d else if (data.type == \"error\") \x7b",
  "\t\t\t\t\tdocument.getElementById(\"output\").textContent = \"error: \" + data.message;",
  "\t\t\t\t\x7d",
  "\t\t\t\x7d;",
  "\t\t\t// try to reconnect every 3 seconds",
  "\t\t\tsocket.onclose = function() \x7b",
  "\t\t\t\tsetTimeout(connect, 3000);",
  "\t\t\t\x7d;",
  "\t\t\x7d",
  "\t\tconnect();",
  "",
  "\t\tdocument.getElementById(\"translateButton\").onclick = function() \x7b",
  "\t\t\tsocket.send(JSON.stringify(\x7b",
  "\t\t\t\ttype: \"translate\",",
  "\t\t\t\ttext: document.getElementById(\"input\").value",
  "\t\t\t\x7d));",
  "\t\t\x7d;",
  "",
  "\t\tdocument.getElementById(\"saveButton\").onclick = function() \x7b",
  "\t\t\tif (!listing) \x7b",
  "\t\t\t\talert(\"Nothing to save.\");",
  "\t\t\t\treturn;",
  "\t\t\t\x7d",
  "\t\t\tvar link = document.createElement(\"a\");",
  "\t\t\tlink.href = URL.createObjectURL(new Blob([listing], \x7btype: \"text/plain\"\x7d));",
  "\t\t\tlink.download = \"program.sk6\";",
  "\t\t\tlink.click();",
  "\t\t\x7d;",
  "",
  "\t\tdocument.getElementById(\"clearButton\").onclick = function() \x7b",
  "\t\t\tlisting = \"\";",
  "\t\t\tdocument.getElementById(\"input\").value = \"\";",
  "\t\t\tdocument.getElementById(\"output\").textContent = \"\";",
  "\t\t\tdocument.getElementById(\"gloss\").textContent = \"\";",
  "\t\t\x7d;",
  "\t</script>",
  "</body>",
  "</html>"]

def html : Text :=
  Text.join [Text.lineFeed] (lines.map utf8)

end Hexaglyph.Page
