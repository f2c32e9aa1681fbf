/-! The instructions that go to the model, with the devlog in the middle. -/
namespace DevlogGraph.Model

def promptStart : String :=
"You are an entity extractor for a Go/React/PostgreSQL codebase.

From this devlog session, extract:
1. A flat list of entities (components, config, services, technologies).
2. A list of architectural relationships between them.

RULES:
1. Output ONLY a valid JSON object.
2. The object MUST have exactly two keys: \"entities\" and \"relationships\".
3. \"entities\" MUST be an array of objects with \"name\" (string) and \"type\" (string).
4. \"relationships\" MUST be an array of objects with \"from\" (string), \"to\" (string), and \"type\" (string).
5. \"name\", \"from\", and \"to\" must be single strings (NOT arrays).
6. DO NOT include headers, descriptions, or explanations.
7. DO NOT group entities into sub-objects.

Devlog:
"

def promptEnd : String :=
"

Required Output Format:
\x7b
  \"entities\": [
    \x7b\"name\": \"nginx\", \"type\": \"config\"\x7d,
    \x7b\"name\": \"auth-service\", \"type\": \"component\"\x7d
  ],
  \"relationships\": [
    \x7b\"from\": \"nginx\", \"to\": \"auth-service\", \"type\": \"proxies_to\"\x7d
  ]
\x7d
"

def prompt (devlog : String) : String := promptStart ++ devlog ++ promptEnd

end DevlogGraph.Model
