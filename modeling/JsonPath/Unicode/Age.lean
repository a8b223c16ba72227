import JsonPath.Unicode.CharSet

/-!
# Ages of code points

The age of a code point is the version of the Unicode character database that first assigned it.
Versions are written so that their texts are ordered as they are.  The table follows version 16.0;
what is not assigned there is younger than every version.
-/

namespace JsonPath.Unicode

/-- The ages of all code points: runs of a version and a length. -/
def ageRuns : Runs := .ofLines 4
  ["01.11f6 03.04 01.11e 03.08 03.21 04.01 03.012 04.03 04.1b 05.0e 01.159 03.05 04.02 01.12f",
   "03.01 01.1a 03.05 04.011 01.146 03.09 03.21 04.08 04.15 04.03 01.12 03.01 03.2d 05.14 01.12",
   "05.12 99.92 01.11 05.03 01.11 07.01 99.94 01.17 99.91 01.11 99.91 01.114 99.91 01.12c 05.11",
   "01.17 03.01 03.22 01.11 03.01 01.11 03.01 01.11 03.01 01.11 03.01 01.112 03.12 03.21 04.05",
   "04.14 03.01 01.1c 03.01 01.142 03.01 01.1c 03.01 01.129 05.11 03.02 03.22 03.04 01.135 03.22",
   "01.12 03.22 01.12 03.22 05.01 01.11c 03.02 01.18 04.12 01.12 05.06 03.210 05.04 05.110 05.22",
   "06.02 07.08 99.91 01.126 99.92 01.17 11.01 01.127 11.01 01.11 03.01 99.92 07.02 06.11 99.91",
   "02.011 04.11 02.0d 01.1a 05.01 01.19 02.01 04.13 99.98 01.11b 99.94 11.01 01.15 99.9b 04.04",
   "06.11 07.01 05.15 04.11 01.11 04.09 05.15 01.11 06.31 14.01 04.11 01.11 06.01 01.11a 05.15",
   "01.113 03.03 04.03 04.16 06.01 01.1e 03.22 01.148 03.02 01.15 03.01 01.1f 03.01 01.11e 04.02",
   "01.1a 03.05 04.01 03.0e 99.91 03.01e 04.03 03.01b 99.92 04.03 04.11e 05.112 03.031 03.21 99.9e",
   "05.03b 99.92 11.03 05.22e 99.92 05.2f 99.91 06.01c 99.92 06.01 99.91 10.0b 99.95 14.01f 99.91",
   "14.02 99.95 16.01 14.08 06.11 07.01 06.1b 07.06 08.02 14.01 09.08 13.0a 14.0b 11.01 09.0f",
   "08.01 06.11b 07.01 05.21 01.13 04.01 01.135 06.02 01.112 05.21 06.01 01.15 05.21 06.02 01.119",
   "05.12 06.05 07.01 05.22 05.02 04.11 05.02 07.01 01.13 99.91 01.18 99.92 01.12 99.92 01.116",
   "99.91 01.17 99.91 01.11 99.93 01.14 99.92 01.11 04.01 01.17 99.92 01.12 99.92 01.13 04.11",
   "99.98 01.11 99.94 01.12 99.91 01.15 99.92 01.115 05.21 10.02 11.01 99.92 04.01 01.11 04.01",
   "99.91 01.16 99.94 01.12 99.92 01.116 99.91 01.17 99.91 01.12 99.91 01.12 99.91 01.12 99.92",
   "01.11 99.91 01.15 99.94 01.12 99.92 01.13 99.93 05.11 99.97 01.14 99.91 01.11 99.97 01.1f",
   "05.11 11.01 99.9a 01.13 99.91 01.17 04.01 01.11 99.91 01.13 99.91 01.116 99.91 01.17 99.91",
   "01.12 99.91 01.15 99.92 01.1a 99.91 01.13 99.91 01.13 99.92 01.11 99.9f 01.11 04.03 99.92",
   "01.1a 06.11 04.01 99.97 08.01 10.06 99.91 01.13 99.91 01.18 99.92 01.12 99.92 01.116 99.91",
   "01.17 99.91 01.12 99.91 04.01 01.14 99.92 01.18 05.11 99.92 01.12 99.92 01.13 99.97 13.01",
   "01.12 99.94 01.12 99.91 01.13 05.12 99.92 01.1b 04.01 06.06 99.9a 01.12 99.91 01.16 99.93",
   "01.13 99.91 01.14 99.93 01.12 99.91 01.11 99.91 01.12 99.93 01.12 99.93 01.13 99.93 01.18",
   "04.11 01.13 99.94 01.15 99.93 01.13 99.91 01.14 99.92 05.11 99.96 01.11 99.9e 04.11 01.1c",
   "04.08 99.95 07.01 01.13 11.01 01.18 99.91 01.13 99.91 01.117 99.91 01.1a 07.01 01.15 99.92",
   "14.01 05.11 01.17 99.91 01.13 99.91 01.14 99.97 01.12 99.91 05.12 08.01 99.92 14.01 99.92",
   "01.12 05.12 99.92 01.1a 99.97 12.01 05.18 09.01 07.01 01.12 11.01 01.18 99.91 01.13 99.91",
   "01.117 99.91 01.1a 99.91 01.15 99.92 04.02 01.17 99.91 01.13 99.91 01.14 99.97 01.12 99.96",
   "14.01 01.11 99.91 01.12 05.02 99.92 01.1a 99.91 05.02 15.01 99.9c 10.01 07.01 01.12 13.01",
   "01.18 99.91 01.13 99.91 01.117 06.01 01.110 06.01 10.02 05.11 01.16 05.11 99.91 01.13 99.91",
   "01.14 06.01 09.01 99.94 09.03 01.11 09.07 08.01 01.12 05.12 99.92 01.1a 05.16 09.03 05.17",
   "99.91 13.01 03.02 99.91 03.012 99.93 03.018 99.91 03.09 99.91 03.01 99.92 03.07 99.93 03.01",
   "99.94 03.06 99.91 03.01 99.91 03.08 99.96 07.0a 99.92 03.03 99.9c 01.13a 99.94 01.11d 99.925",
   "01.12 99.91 01.11 99.91 12.01 01.12 12.01 01.11 99.91 12.01 01.11 12.06 01.14 12.01 01.17",
   "12.01 01.13 99.91 01.11 99.91 01.11 12.02 01.12 12.01 01.1d 12.01 01.13 99.92 01.15 99.91",
   "01.11 99.91 01.16 15.01 99.91 01.1a 99.92 01.12 06.12 99.920 02.048 99.91 02.021 03.01 05.12",
   "99.94 02.01b 06.04 02.06 03.01 02.01 99.91 02.015 03.03 02.07 03.01 02.01 03.03 99.91 03.0f",
   "99.91 05.11 03.01 04.12 05.13 05.24 06.02 99.925 03.022 05.11 03.05 05.11 03.02 05.11 03.07",
   "05.13 03.04 05.16 03.01a 05.140 05.24 05.12 01.126 99.91 06.11 99.95 06.11 99.92 01.127 03.22",
   "04.12 01.11 04.11 06.13 01.15a 05.25 01.144 05.25 01.152 05.26 03.07 04.11 03.03f 04.11 03.01",
   "99.91 03.04 99.92 03.07 99.91 03.01 99.91 03.04 99.92 03.027 04.11 03.01 99.91 03.04 99.92",
   "03.01f 04.11 03.01 99.91 03.04 99.92 03.07 99.91 03.01 99.91 03.04 99.92 03.07 04.11 03.07",
   "99.91 03.017 04.11 03.01f 04.11 03.01 99.91 03.04 99.92 03.07 04.11 03.027 04.11 03.013 99.92",
   "06.02 04.12 03.01c 99.93 04.11a 99.96 03.055 08.01 99.92 08.06 99.92 05.21 03.0276 05.29",
   "03.01d 99.93 03.051 07.08 99.97 03.2d 14.01 03.27 14.01 99.99 14.01 03.217 99.99 03.214 99.9c",
   "03.2d 99.91 03.23 99.91 03.22 99.9c 03.05d 04.01 99.92 03.0a 99.96 04.0a 99.96 03.0f 14.01",
   "03.0a 99.96 03.058 11.01 99.97 03.02a 05.11 99.95 05.246 99.9a 04.01d 07.02 99.91 04.0c 99.94",
   "04.0c 99.94 04.01 99.93 04.02a 99.92 04.05 99.9b 04.12a 05.22 99.94 04.11a 99.96 04.1a 05.21",
   "99.93 04.12 04.020 04.11c 99.92 04.12 05.23f 99.91 05.21d 99.92 05.2b 99.96 05.2a 99.96 05.2e",
   "99.92 07.0f 13.02 14.0e 99.931 05.04c 14.01 99.91 16.02 05.02d 14.02 16.01 05.12b 06.13 05.1c",
   "06.16 06.034 99.98 06.04 05.138 99.93 05.1f 99.93 05.133 09.09 16.02 99.95 11.02b 99.92 11.03",
   "06.18 99.98 05.223 06.14 10.01 07.02 12.01 99.95 04.06c 04.158 05.07 05.11c 07.0f 10.04 14.01",
   "09.01 06.01 05.21 05.02 01.19b 02.01 05.14 01.15a 05.16 01.116 99.92 01.16 99.92 01.126 99.92",
   "01.16 99.92 01.18 99.91 01.11 99.91 01.11 99.91 01.11 99.91 01.11f 99.92 01.135 99.91 01.1f",
   "99.91 01.1e 99.92 01.16 99.91 01.113 99.92 01.13 99.91 01.19 99.91 01.12f 03.01 01.117 03.21",
   "03.06 03.25 04.02 04.12 03.21 04.17 03.25 05.11 99.91 06.34 01.17 03.21 99.92 01.11b 99.91",
   "04.15 06.08 99.93 01.1b 02.01 02.11 03.03 03.22 04.14 05.23 06.01 06.21 07.03 08.01 10.01",
   "14.01 99.9f 01.112 03.02 03.27 04.11 05.04 05.11 99.9f 01.139 03.02 04.01 04.11 03.2f 04.11",
   "05.02 05.11 05.23 01.130 03.01 05.01 05.14 05.21 08.02 99.94 01.15b 03.09 03.2c 01.1f2 03.2e",
   "01.11 03.01 01.179 03.01 03.21 03.01e 03.234 04.02 04.1b 05.0c 05.21 06.0b 07.07 09.04 10.01",
   "01.125 03.02 16.03 99.916 01.1b 99.915 01.18b 03.214 04.01 01.196 03.2a 01.150 03.08 03.28",
   "01.114 04.02 03.22 04.11 03.01 01.156 03.02 03.2c 04.12 03.2a 04.08 04.1b 05.11 05.22 04.02",
   "04.110 05.01 05.1a 05.23 05.14 05.2a 06.01 05.213 06.01 05.21 06.04 05.218 07.01 01.14 06.01",
   "01.14 06.02 01.11c 06.01 01.123 06.01 01.11 06.01 01.14 06.03 01.11 05.21 01.17 06.02 01.17",
   "03.2e 01.11f 06.03 01.118 06.01 01.1e 06.01 04.17 05.04 06.11 05.11 06.11 06.02 03.21c 05.14",
   "03.210 03.0100 03.2200 04.0e 04.16 05.07 05.15 05.04 05.129 07.03 05.15 05.25 07.01a 99.92",
   "07.020 99.91 13.01 07.022 11.03 07.0c 12.01 07.08 10.01 11.019 08.04 11.0f 12.01 04.12f 14.01",
   "04.12f 14.01 05.0d 05.13 05.21 05.13 05.04 05.16 05.22 04.16b 05.27 06.12 99.95 04.12d 99.91",
   "06.11 99.95 06.11 99.92 04.136 06.12 99.97 04.11 06.01 99.9e 06.01 04.117 99.99 04.17 99.91",
   "04.17 99.91 04.17 99.91 04.17 99.91 04.17 99.91 04.17 99.91 04.17 99.91 04.17 99.91 05.120",
   "04.118 05.14 04.12 05.113 05.21 06.1a 07.07 09.02 10.05 11.05 12.01 13.03 14.0b 99.922 03.01a",
   "99.91 03.059 99.9c 03.0d6 99.91a 03.0c 15.14 01.138 03.03 03.23 03.01 01.11 99.91 01.154 03.22",
   "99.92 01.16 03.22 01.15e 03.21 99.95 01.128 05.11 10.01 11.01 99.91 01.15e 99.91 01.110 03.018",
   "06.03 13.05 04.110 05.114 16.02 99.99 15.11 03.210 01.11d 04.02 99.91 01.124 05.2c 04.01 03.2f",
   "01.11c 04.02 04.11 01.132 03.2f 01.1c 04.04 01.12f 12.11 01.177 04.04 01.163 04.02 01.11f",
   "04.01 03.019b6 13.0a 04.040 01.151a6 04.116 05.18 05.28 06.11 08.09 10.015 11.05 13.0d 14.03",
   "03.048d 99.93 03.012 03.22 03.010 03.21 03.0c 03.21 03.03 03.21 03.01 99.99 05.230 05.112c",
   "99.914 05.120 06.02 05.112 06.18 05.11c 07.06 08.01 06.11 05.258 99.98 04.117 05.04 05.15",
   "05.02 05.16b 06.02 08.01 06.02 06.12 07.0c 06.0a 06.11 07.03 09.01 11.01 07.02 08.06 11.02",
   "12.06 14.02 12.05 13.04 16.03 99.92 14.02 99.91 14.01 99.91 14.05 16.03 99.915 14.03 13.02",
   "07.01 06.12 06.01 05.15 04.12c 13.01 99.93 05.2a 99.96 05.038 99.98 05.145 09.01 99.98 05.1c",
   "99.96 05.21c 08.02 11.02 05.154 99.9b 05.11 05.21d 99.93 05.24e 99.91 05.2b 99.94 05.22 07.01f",
   "99.91 05.137 99.99 05.1e 99.92 05.1a 99.92 05.14 05.21c 07.04 05.243 99.918 05.25 06.117 99.9a",
   "06.06 99.92 06.06 99.92 06.06 99.99 06.07 99.91 06.07 99.91 07.030 08.04 07.02 12.02 13.04",
   "99.94 08.050 05.22e 99.92 05.2a 99.96 02.02ba4 99.9c 05.217 99.94 05.231 99.94 02.0800",
   "01.11a2e 06.12 03.23b 05.23 99.92 04.16a 99.926 01.17 99.9c 01.15 99.95 03.01 01.119 99.91",
   "01.15 99.91 01.11 99.91 01.12 99.91 01.12 99.91 01.16c 06.010 14.01 99.910 01.116d 14.010",
   "01.140 99.92 01.136 99.97 14.01 03.120 01.1c 03.21 04.01 14.02 03.210 04.1a 99.96 01.14 05.13",
   "07.07 08.02 01.115 03.22 04.02 01.1a 99.91 01.113 99.91 01.14 99.94 01.13 03.21 01.11 99.91",
   "01.187 99.92 01.11 99.91 01.15e 03.22 01.15e 99.93 01.16 99.92 01.16 99.92 01.16 99.92 01.13",
   "99.93 01.17 99.91 01.17 99.9a 03.03 02.11 01.13 04.0c 99.91 04.01a 99.91 04.013 99.91 04.02",
   "99.91 04.0f 99.92 04.0e 99.922 04.07b 99.95 04.03 99.94 04.02d 99.93 04.09 04.14b 07.02 09.02",
   "99.91 05.1c 13.01 99.93 07.01 99.92f 05.12e 99.982 05.11d 99.93 05.131 99.9f 07.01c 99.94",
   "03.11f 07.01 03.14 99.99 10.03 03.11b 99.95 07.02b 99.95 04.01e 99.91 04.01 04.124 99.94 04.1e",
   "99.92a 03.126 04.02 03.126 04.050 99.92 04.0a 99.96 09.024 99.94 09.024 99.94 07.028 99.98",
   "07.034 99.9b 07.01 14.0b 99.91 14.0f 99.91 14.07 99.91 14.02 99.91 14.0b 99.91 14.0f 99.91",
   "14.07 99.91 14.02 99.93 16.034 99.9c 07.0137 99.99 07.016 99.9a 07.08 99.918 14.06 99.91",
   "14.02a 99.91 14.09 99.945 04.06 99.92 04.01 99.91 04.02c 99.91 04.02 99.93 04.01 99.92 04.01",
   "05.216 99.91 05.29 07.03f 99.98 07.09 99.930 08.013 99.91 08.02 99.95 08.05 05.01a 05.22 99.93",
   "05.01 05.11a 99.95 05.11 99.940 06.138 99.94 08.02 06.12 08.010 99.92 08.02e 04.14 99.91 04.12",
   "99.95 04.18 99.91 04.13 99.91 04.11b 11.02 99.92 04.13 99.94 04.19 11.01 99.97 04.19 99.97",
   "05.220 07.020 99.920 07.027 99.94 07.0c 99.99 05.236 99.93 05.21d 99.92 05.21b 99.95 05.28",
   "07.012 99.97 07.04 99.9c 07.07 99.950 05.249 99.937 08.033 99.9d 08.033 99.97 08.06 11.028",
   "99.98 11.0a 99.96 16.026 99.93 16.01d 99.98 16.02 99.9d0 05.21f 99.91 13.02a 99.91 13.03 99.92",
   "13.02 99.910 16.03 99.937 16.01 15.03 11.028 99.98 11.02a 99.916 14.01a 99.926 13.01c 99.914",
   "12.017 99.99 06.04e 99.94 06.01e 14.06 99.99 07.01 05.242 14.01 99.9a 11.01 99.92 06.119 99.97",
   "06.1a 99.96 06.135 99.91 06.1e 11.03 13.01 99.98 07.027 99.99 06.149 08.04 07.01 13.02 06.1a",
   "07.01 08.05 99.91 07.014 99.9b 07.012 99.91 07.02b 09.01 15.03 99.93e 08.07 99.91 08.01 99.91",
   "08.04 99.91 08.0f 99.91 08.0b 99.96 07.03b 99.95 07.0a 99.96 08.01 07.03 99.91 07.08 99.92",
   "07.02 99.92 07.016 99.91 07.07 99.91 07.02 99.91 07.05 99.91 11.01 07.09 99.92 07.02 99.92",
   "07.03 99.92 08.01 99.96 07.01 99.95 07.07 99.92 07.07 99.93 07.05 99.9b 16.0a 99.91 16.01",
   "99.92 16.01 99.91 16.026 99.91 16.0a 99.91 16.01 99.92 16.01 99.91 16.04 99.91 16.0a 99.91",
   "16.02 99.98 16.02 99.91d 09.05a 13.01 09.01 99.91 09.01 11.01 12.01 13.02 99.91e 07.048 99.98",
   "07.0a 99.9a6 07.036 99.92 07.012 08.014 99.922 07.045 99.9b 07.0a 99.96 09.0d 99.913 06.138",
   "12.01 14.01 99.96 06.1a 99.96 16.014 99.91c 08.01a 11.01 99.92 08.0f 99.94 08.010 14.07 99.9b9",
   "11.03c 99.964 07.053 99.9c 07.01 13.07 99.92 13.01 99.92 13.08 99.91 13.02 99.91 13.01e 99.91",
   "13.02 99.92 13.0c 99.99 13.0a 99.946 12.08 99.92 12.02e 99.92 12.0b 99.91b 10.048 99.98 10.034",
   "12.02 10.017 11.01 10.05 99.9d 14.010 07.039 99.97 15.0a 99.9b6 16.022 99.9e 16.0a 99.96 09.09",
   "99.91 09.02d 99.91 09.0e 99.9a 09.01d 99.93 09.020 99.92 09.016 99.91 09.0e 99.949 10.07 99.91",
   "10.02 99.91 10.02c 99.93 10.01 99.91 10.02 99.91 10.09 99.98 10.0a 99.96 11.06 99.91 11.02",
   "99.91 11.025 99.91 11.02 99.91 11.06 99.97 11.0a 99.9136 11.019 99.97 15.011 99.91 15.029",
   "99.93 15.01c 16.01 99.955 13.01 99.9f 12.032 99.9d 12.01 05.036f 07.02a 08.01 99.966 05.063",
   "07.0c 99.91 05.04 07.01 99.9b 08.0c4 99.9a4c 14.063 99.9d 05.242f 15.01 12.09 15.01d 99.9a",
   "16.0f9b 99.95 08.0247 99.91ab9 16.03a 99.96c6 06.0239 99.97 07.01f 99.91 07.0a 99.94 07.02",
   "14.04f 99.91 14.0a 99.96 07.01e 99.92 07.06 99.9a 07.046 99.9a 07.0a 99.91 07.07 99.91 07.015",
   "99.95 07.013 99.91b0 16.03a 99.9c6 11.05b 99.965 06.145 12.06 99.94 12.01 06.12f 12.09 99.97",
   "06.111 99.940 09.01 10.01 12.02 13.01 99.9b 13.02 99.9e 09.017ed 11.05 12.06 99.98 09.02f3",
   "13.01e3 99.929 16.01 13.09 99.922e7 14.04 99.91 14.07 99.91 14.02 99.91 06.02 10.011d 14.04",
   "99.9f 15.01 99.91d 12.03 99.92 15.01 99.9e 12.04 99.98 10.018c 99.9904 07.06b 99.95 07.0d",
   "99.93 07.09 99.97 07.0a 99.92 07.08 99.9f5c 16.0fa 99.96 16.01b4 99.94c 14.02e 99.92 14.017",
   "99.99 14.074 99.93c 03.1f6 99.9a 03.127 99.92 05.11 03.1b4 08.0b 14.02 99.915 04.146 99.97a",
   "15.014 99.9c 11.014 99.9c 04.057 99.99 05.012 11.07 99.987 03.155 99.91 03.147 99.91 03.12",
   "99.92 03.11 99.92 03.12 99.92 03.14 99.91 03.1c 99.91 03.11 99.91 03.14 04.01 03.12 99.91",
   "03.141 99.91 03.14 99.92 03.18 99.91 03.17 99.91 03.11c 99.91 03.14 99.91 03.15 99.91 03.11",
   "99.93 03.17 99.91 03.1152 04.12 99.92 03.1122 05.02 99.92 03.132 08.028c 99.9f 08.05 99.91",
   "08.0f 99.9450 14.01f 99.96 15.06 99.9d5 09.07 99.91 09.011 99.92 09.07 99.91 09.02 99.91 09.05",
   "99.95 15.03e 99.921 15.01 99.970 12.02d 99.93 12.0e 99.92 12.0a 99.94 12.02 99.9140 14.01f",
   "99.911 12.03a 99.95 12.01 99.91d0 15.02a 99.9d6 16.02b 99.94 16.01 99.91e0 14.07 99.91 14.04",
   "99.91 14.02 99.91 14.0f 99.91 07.0c5 99.92 07.010 99.929 09.04b 12.01 99.94 09.0a 99.94 09.02",
   "99.9311 11.044 99.94c 12.03d 99.9c2 06.14 99.91 06.11b 99.91 06.12 99.91 06.11 99.92 06.11",
   "99.91 06.1a 99.91 06.14 99.91 06.11 99.91 06.11 99.96 06.11 99.94 06.11 99.91 06.11 99.91",
   "06.11 99.91 06.13 99.91 06.12 99.91 06.11 99.92 06.11 99.91 06.11 99.91 06.11 99.91 06.11",
   "99.91 06.11 99.91 06.12 99.91 06.11 99.92 06.14 99.91 06.17 99.91 06.14 99.91 06.14 99.91",
   "06.11 99.91 06.1a 99.91 06.111 99.95 06.13 99.91 06.15 99.91 06.111 99.934 06.12 99.910e",
   "05.12c 99.94 05.164 99.9c 06.0f 99.92 06.0e 07.01 99.91 06.0f 99.91 06.0f 07.016 99.9a 05.2b",
   "07.02 13.03 05.21f 11.01 06.01 05.21 06.0b 05.21 06.01 05.21 06.02 05.21 06.03 05.21 06.03",
   "05.25 06.08 05.21 06.07 05.21 06.0a 06.12 12.01 13.03 06.09 05.21 06.01 05.22 06.02 05.21",
   "06.0a 05.24 06.02 05.21 06.0a 09.012 13.01 99.938 06.01a 05.21 06.02 99.9d 05.222 06.09 09.01",
   "99.94 05.29 99.97 06.02 99.9e 10.06 99.99a 06.021 07.0c 08.03 06.06 07.01 06.046 07.01 08.02",
   "06.014 07.0c 06.025 07.01 06.05 07.04 08.05 07.0c 06.011 07.07 08.08 06.03f 07.01 06.01 07.01",
   "06.0b6 07.01 06.04 07.02 08.01 06.03e 07.02 06.14 07.07 08.05 06.018 07.012 09.01 07.029 09.01",
   "07.056 06.05 06.11 06.010 06.11 06.03 06.11 06.01 06.11 06.01 06.11 06.01 06.11 06.03 06.11",
   "06.06 06.12 06.04 06.11 06.01 06.12 06.04 06.11 06.0c 07.02 08.02 06.0b 07.030 06.046 07.0a",
   "08.01 09.02 10.02 12.01 13.02 99.94 15.01 14.03 07.0d 99.93 07.04 09.03 10.02 11.01 12.01",
   "13.02 99.93 06.074 15.03 99.94 15.05 07.055 11.04 15.01 99.96 12.0c 99.94 14.01 99.9f 07.0c",
   "99.94 07.038 99.98 07.0a 99.96 07.028 99.98 07.01e 99.92 13.02 16.0a 99.94 16.02 99.93e 10.0c",
   "13.01 12.03 08.09 09.06 10.01 09.08 10.08 09.01 10.02 09.0c 12.01 09.0c 10.01 11.03 09.0f",
   "10.0d 11.05 12.01 13.01 11.04 13.02 14.01 11.01 12.01 11.04 08.05 09.0d 10.06 11.0b 13.02",
   "12.06 13.03 12.02 11.0a 12.06 08.01 11.02 12.08 13.01 14.01 12.03 10.017 11.019 12.054 99.9c",
   "11.0e 99.92 12.04 13.01 15.03 12.03 14.02 99.93 12.03 13.04 15.02 16.01 99.95 16.01 12.06",
   "13.013 14.04 15.03 13.07 14.04 15.03 16.01 15.01 13.03 14.03 16.01 99.97 15.02 13.07 14.03",
   "15.02 16.01 99.92 16.01 14.08 15.01 16.01 99.96 14.07 15.02 99.97 13.093 99.91 13.037 16.025",
   "13.0a 99.9404 02.02 03.1a6d7 13.07 14.02 99.920 05.21035 14.04 15.01 99.96 06.0de 99.92",
   "08.01682 99.9e 10.01d31 99.9f 15.126e 99.99a2 03.121e 99.95e0 02.02 13.0134b 99.95 15.01060",
   "99.9dc4e 02.02 99.9fffe 02.02 99.9fffe 02.02 99.9fffe 02.02 99.9fffe 02.02 99.9fffe 02.02",
   "99.9fffe 02.02 99.9fffe 02.02 99.9fffe 02.02 99.9fffe 02.02 99.9fffe 02.02 99.91 03.11 99.91e",
   "03.160 99.980 04.0f0 99.9fe0e 02.020002"]

/-- The versions by their names. -/
def ageNames : List (List String × String) :=
  [(["1.1", "V1_1"], "01.1"), (["2.0", "V2_0"], "02.0"), (["2.1", "V2_1"], "02.1"),
   (["3.0", "V3_0"], "03.0"), (["3.1", "V3_1"], "03.1"), (["3.2", "V3_2"], "03.2"),
   (["4.0", "V4_0"], "04.0"), (["4.1", "V4_1"], "04.1"), (["5.0", "V5_0"], "05.0"),
   (["5.1", "V5_1"], "05.1"), (["5.2", "V5_2"], "05.2"), (["6.0", "V6_0"], "06.0"),
   (["6.1", "V6_1"], "06.1"), (["6.2", "V6_2"], "06.2"), (["6.3", "V6_3"], "06.3"),
   (["7.0", "V7_0"], "07.0"), (["8.0", "V8_0"], "08.0"), (["9.0", "V9_0"], "09.0"),
   (["10.0", "V10_0"], "10.0"), (["11.0", "V11_0"], "11.0"), (["12.0", "V12_0"], "12.0"),
   (["12.1", "V12_1"], "12.1"), (["13.0", "V13_0"], "13.0"), (["14.0", "V14_0"], "14.0"),
   (["15.0", "V15_0"], "15.0"), (["15.1", "V15_1"], "15.1"), (["16.0", "V16_0"], "16.0")]

/-- The code points that are assigned in a version, whether by it or by an earlier one. -/
def assignedIn (version : String) : CharSet := .ofRuns ageRuns (· ≤ version)

end JsonPath.Unicode
