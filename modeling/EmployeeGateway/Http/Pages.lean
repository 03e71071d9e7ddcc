import EmployeeGateway.Json.Writer

/-!
# Documentation pages

The interface serves three HTML pages beside its description:

* `Pages.explorer` loads an API explorer (Swagger UI) over the description:
  the page names the description's URL, the explorer's settings one per line
  as JSON key and value, and the URL the explorer returns to after a sign-in;
* `Pages.signInReturn` is the fixed page that hands the result of such a
  sign-in back to the explorer that opened it;
* `Pages.reader` shows the description as a reference document (ReDoc).

Every page starts and ends with a line break and is indented by four spaces,
as its template is.
-/

namespace EmployeeGateway

namespace Pages

/-- Where the explorer's script, style and the pages' icon are loaded from. -/
def explorerScript : String := "https://cdn.jsdelivr.net/npm/swagger-ui-dist@5/swagger-ui-bundle.js"
def explorerStyle : String := "https://cdn.jsdelivr.net/npm/swagger-ui-dist@5/swagger-ui.css"
def icon : String := "https://fastapi.tiangolo.com/img/favicon.png"

/-- The explorer's settings, in order. -/
def explorerSettings : List (String × Value) :=
  [("dom_id", .str "#swagger-ui"), ("layout", .str "BaseLayout"), ("deepLinking", .bool true),
    ("showExtensions", .bool true), ("showCommonExtensions", .bool true)]

/-- The explorer page for a description URL, with a title and the URL a
sign-in returns to. -/
def explorer (title descriptionUrl returnUrl : String) : String :=
  "\n    <!DOCTYPE html>\n    <html>\n    <head>\n" ++
  "    <meta name=\"viewport\" content=\"width=device-width, initial-scale=1.0\">\n" ++
  "    <link type=\"text/css\" rel=\"stylesheet\" href=\"" ++ explorerStyle ++ "\">\n" ++
  "    <link rel=\"shortcut icon\" href=\"" ++ icon ++ "\">\n" ++
  "    <title>" ++ title ++ "</title>\n    </head>\n    <body>\n    <div id=\"swagger-ui\">\n    </div>\n" ++
  "    <script src=\"" ++ explorerScript ++ "\"></script>\n" ++
  "    <!-- `SwaggerUIBundle` is now available on the page -->\n    <script>\n" ++
  "    const ui = SwaggerUIBundle(\x7b\n        url: '" ++ descriptionUrl ++ "',\n    " ++
  String.join (explorerSettings.map fun s => Json.writeAscii (.str s.1) ++ ": " ++ Json.writeAscii s.2 ++ ",\n") ++
  "oauth2RedirectUrl: window.location.origin + '" ++ returnUrl ++ "'," ++
  "\n    presets: [\n        SwaggerUIBundle.presets.apis,\n        SwaggerUIBundle.SwaggerUIStandalonePreset\n" ++
  "        ],\n    \x7d)\n    </script>\n    </body>\n    </html>\n    "

/-- The lines of the page a sign-in returns to. -/
def signInReturnLines : List String :=
  [
    "",
    "    <!doctype html>",
    "    <html lang=\"en-US\">",
    "    <head>",
    "        <title>Swagger UI: OAuth2 Redirect</title>",
    "    </head>",
    "    <body>",
    "    <script>",
    "        'use strict';",
    "        function run () \x7b",
    "            var oauth2 = window.opener.swaggerUIRedirectOauth2;",
    "            var sentState = oauth2.state;",
    "            var redirectUrl = oauth2.redirectUrl;",
    "            var isValid, qp, arr;",
    "",
    "            if (/code|token|error/.test(window.location.hash)) \x7b",
    "                qp = window.location.hash.substring(1).replace('?', '&');",
    "            \x7d else \x7b",
    "                qp = location.search.substring(1);",
    "            \x7d",
    "",
    "            arr = qp.split(\"&\");",
    "            arr.forEach(function (v,i,_arr) \x7b _arr[i] = '\"' + v.replace('=', '\":\"') + '\"';\x7d);",
    "            qp = qp ? JSON.parse('\x7b' + arr.join() + '\x7d',",
    "                    function (key, value) \x7b",
    "                        return key === \"\" ? value : decodeURIComponent(value);",
    "                    \x7d",
    "            ) : \x7b\x7d;",
    "",
    "            isValid = qp.state === sentState;",
    "",
    "            if ((",
    "              oauth2.auth.schema.get(\"flow\") === \"accessCode\" ||",
    "              oauth2.auth.schema.get(\"flow\") === \"authorizationCode\" ||",
    "              oauth2.auth.schema.get(\"flow\") === \"authorization_code\"",
    "            ) && !oauth2.auth.code) \x7b",
    "                if (!isValid) \x7b",
    "                    oauth2.errCb(\x7b",
    "                        authId: oauth2.auth.name,",
    "                        source: \"auth\",",
    "                        level: \"warning\",",
    "                        message: \"Authorization may be unsafe, passed state was changed in server. The passed state wasn't returned from auth server.\"",
    "                    \x7d);",
    "                \x7d",
    "",
    "                if (qp.code) \x7b",
    "                    delete oauth2.state;",
    "                    oauth2.auth.code = qp.code;",
    "                    oauth2.callback(\x7bauth: oauth2.auth, redirectUrl: redirectUrl\x7d);",
    "                \x7d else \x7b",
    "                    let oauthErrorMsg;",
    "                    if (qp.error) \x7b",
    "                        oauthErrorMsg = \"[\"+qp.error+\"]: \" +",
    "                            (qp.error_description ? qp.error_description+ \". \" : \"no accessCode received from the server. \") +",
    "                            (qp.error_uri ? \"More info: \"+qp.error_uri : \"\");",
    "                    \x7d",
    "",
    "                    oauth2.errCb(\x7b",
    "                        authId: oauth2.auth.name,",
    "                        source: \"auth\",",
    "                        level: \"error\",",
    "                        message: oauthErrorMsg || \"[Authorization failed]: no accessCode received from the server.\"",
    "                    \x7d);",
    "                \x7d",
    "            \x7d else \x7b",
    "                oauth2.callback(\x7bauth: oauth2.auth, token: qp, isValid: isValid, redirectUrl: redirectUrl\x7d);",
    "            \x7d",
    "            window.close();",
    "        \x7d",
    "",
    "        if (document.readyState !== 'loading') \x7b",
    "            run();",
    "        \x7d else \x7b",
    "            document.addEventListener('DOMContentLoaded', function () \x7b",
    "                run();",
    "            \x7d);",
    "        \x7d",
    "    </script>",
    "    </body>",
    "    </html>",
    "        "
  ]

/-- The page a sign-in returns to. -/
def signInReturn : String := "\n".intercalate signInReturnLines

/-- Where the reference document's script is loaded from. -/
def readerScript : String := "https://cdn.jsdelivr.net/npm/redoc@2/bundles/redoc.standalone.js"

/-- The fonts the reference document uses. -/
def readerFonts : String :=
  "https://fonts.googleapis.com/css?family=Montserrat:300,400,700|Roboto:300,400,700"

/-- The reference document page for a description URL, with a title. -/
def reader (title descriptionUrl : String) : String :=
  "\n    <!DOCTYPE html>\n    <html>\n    <head>\n    <title>" ++ title ++ "</title>\n" ++
  "    <!-- needed for adaptive design -->\n    <meta charset=\"utf-8\"/>\n" ++
  "    <meta name=\"viewport\" content=\"width=device-width, initial-scale=1\">\n    " ++
  "\n    <link href=\"" ++ readerFonts ++ "\" rel=\"stylesheet\">\n    " ++
  "\n    <link rel=\"shortcut icon\" href=\"" ++ icon ++ "\">\n" ++
  "    <!--\n    ReDoc doesn't change outer page styles\n    -->\n" ++
  "    <style>\n      body \x7b\n        margin: 0;\n        padding: 0;\n      \x7d\n    </style>\n" ++
  "    </head>\n    <body>\n    <noscript>\n" ++
  "        ReDoc requires Javascript to function. Please enable it to browse the documentation.\n" ++
  "    </noscript>\n    <redoc spec-url=\"" ++ descriptionUrl ++ "\"></redoc>\n" ++
  "    <script src=\"" ++ readerScript ++ "\"> </script>\n    </body>\n    </html>\n    "

end Pages

end EmployeeGateway
