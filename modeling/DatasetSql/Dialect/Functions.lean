/-!
# Names of functions

For each family of dialects, the names that its functions go by where other dialects use another
name. The names on the left are in upper case.
-/

namespace DatasetSql.FunctionNames

/-- Names in DuckDB. -/
def duckdb : List (String × String) :=
  [("TO_CHAR", "STRFTIME"), ("DATE_FORMAT", "STRFTIME"), ("TO_TIMESTAMP", "STRPTIME"),
    ("STR_TO_DATE", "STRPTIME"), ("REGEXP_SUBSTR", "REGEXP_EXTRACT"),
    ("REGEXP_LIKE", "REGEXP_MATCHES"), ("NVL", "COALESCE"), ("IFNULL", "COALESCE"),
    ("ISNULL", "COALESCE"), ("LEN", "LENGTH")]

/-- Names in PostgreSQL and Redshift. -/
def postgres : List (String × String) :=
  [("STRFTIME", "TO_CHAR"), ("DATE_FORMAT", "TO_CHAR"), ("STRPTIME", "TO_TIMESTAMP"),
    ("STR_TO_DATE", "TO_TIMESTAMP"), ("REGEXP_EXTRACT", "REGEXP_SUBSTR"),
    ("REGEXP_MATCHES", "REGEXP_LIKE"), ("NVL", "COALESCE"), ("IFNULL", "COALESCE"),
    ("ISNULL", "COALESCE"), ("LEN", "LENGTH")]

/-- Names in MySQL. -/
def mysql : List (String × String) :=
  [("STRFTIME", "DATE_FORMAT"), ("TO_CHAR", "DATE_FORMAT"), ("STRPTIME", "STR_TO_DATE"),
    ("TO_TIMESTAMP", "STR_TO_DATE"), ("REGEXP_EXTRACT", "REGEXP_SUBSTR"),
    ("REGEXP_MATCHES", "REGEXP_LIKE"), ("NVL", "IFNULL"), ("ISNULL", "IFNULL"),
    ("LEN", "LENGTH")]

/-- Names in T-SQL. -/
def tsql : List (String × String) :=
  [("LENGTH", "LEN"), ("SUBSTR", "SUBSTRING"), ("NOW", "GETDATE"), ("STRFTIME", "FORMAT"),
    ("TO_CHAR", "FORMAT"), ("DATE_FORMAT", "FORMAT"), ("NVL", "ISNULL"), ("IFNULL", "ISNULL")]

/-- Names in Snowflake. -/
def snowflake : List (String × String) :=
  [("STRFTIME", "TO_CHAR"), ("DATE_FORMAT", "TO_CHAR"), ("STRPTIME", "TO_TIMESTAMP"),
    ("REGEXP_EXTRACT", "REGEXP_SUBSTR"), ("REGEXP_MATCHES", "REGEXP_LIKE"), ("IFNULL", "NVL"),
    ("ISNULL", "NVL")]

/-- Names in BigQuery. -/
def bigquery : List (String × String) :=
  [("STRFTIME", "FORMAT_TIMESTAMP"), ("TO_CHAR", "FORMAT_TIMESTAMP"),
    ("DATE_FORMAT", "FORMAT_TIMESTAMP"), ("STRPTIME", "PARSE_TIMESTAMP"),
    ("REGEXP_MATCHES", "REGEXP_CONTAINS"), ("REGEXP_LIKE", "REGEXP_CONTAINS"),
    ("NVL", "IFNULL"), ("ISNULL", "IFNULL"), ("LENGTH", "CHAR_LENGTH")]

/-- Names in Databricks. -/
def databricks : List (String × String) :=
  [("TO_CHAR", "DATE_FORMAT"), ("STRFTIME", "DATE_FORMAT"), ("STRPTIME", "TO_TIMESTAMP"),
    ("REGEXP_MATCHES", "REGEXP_LIKE"), ("NVL", "COALESCE"), ("ISNULL", "COALESCE"),
    ("IFNULL", "COALESCE")]

/-- Names in Oracle. -/
def oracle : List (String × String) :=
  [("STRFTIME", "TO_CHAR"), ("DATE_FORMAT", "TO_CHAR"), ("STRPTIME", "TO_TIMESTAMP"),
    ("REGEXP_EXTRACT", "REGEXP_SUBSTR"), ("REGEXP_MATCHES", "REGEXP_LIKE"), ("IFNULL", "NVL"),
    ("ISNULL", "NVL")]

end DatasetSql.FunctionNames
