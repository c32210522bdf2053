/-!
# Zones of Asia

Entries of the time zone database for Asia.
-/

namespace TransitDwell

namespace ZoneData

/-- The yearly changes of clocks that are laid down there. -/
def asiaChanges : String := "
  Armenia = 2011 Mar lastSun 2s 1; 2011 Oct lastSun 2s 0.
  Azerbaijan = 1997-2015 Mar lastSun 4 1; 1997-2015 Oct lastSun 5 0.
  Bangladesh = 2009 Jun 19 23 1; 2009 Dec 31 24 0.
  Shanghai = 1919 Apr 12 24 1; 1919 Sep 30 24 0; 1940 Jun 1 0 1; 1940 Oct 12 24 0;
    1941 Mar 15 0 1; 1941 Nov 1 24 0; 1942 Jan 31 0 1; 1945 Sep 1 24 0; 1946 May 15 0 1;
    1946 Sep 30 24 0; 1947 Apr 15 0 1; 1947 Oct 31 24 0; 1948-1949 May 1 0 1;
    1948-1949 Sep 30 24 0.
  China = 1986 May 4 2 1; 1986-1991 Sep Sun>=11 2 0; 1987-1991 Apr Sun>=11 2 1.
  HongKong = 1946 Apr 21 0 1; 1946 Dec 1 3:30s 0; 1947 Apr 13 3:30s 1; 1947 Nov 30 3:30s 0;
    1948 May 2 3:30s 1; 1948-1952 Oct Sun>=28 3:30s 0; 1949-1953 Apr Sun>=1 3:30 1;
    1953-1964 Oct Sun>=31 3:30 0; 1954-1964 Mar Sun>=18 3:30 1; 1965-1976 Apr Sun>=16 3:30 1;
    1965-1976 Oct Sun>=16 3:30 0; 1973 Dec 30 3:30 1; 1979 May 13 3:30 1; 1979 Oct 21 3:30 0.
  Taiwan = 1946 May 15 0 1; 1946 Oct 1 0 0; 1947 Apr 15 0 1; 1947 Nov 1 0 0; 1948-1951 May 1 0 1;
    1948-1951 Oct 1 0 0; 1952 Mar 1 0 1; 1952-1954 Nov 1 0 0; 1953-1959 Apr 1 0 1;
    1955-1961 Oct 1 0 0; 1960-1961 Jun 1 0 1; 1974-1975 Apr 1 0 1; 1974-1975 Oct 1 0 0;
    1979 Jul 1 0 1; 1979 Oct 1 0 0.
  Macau = 1942-1943 Apr 30 23 1; 1942 Nov 17 23 0; 1943 Sep 30 23 0; 1946 Apr 30 23s 1;
    1946 Sep 30 23s 0; 1947 Apr 19 23s 1; 1947 Nov 30 23s 0; 1948 May 2 23s 1; 1948 Oct 31 23s 0;
    1949-1950 Apr Sat>=1 23s 1; 1949-1950 Oct lastSat 23s 0; 1951 Mar 31 23s 1; 1951 Oct 28 23s 0;
    1952-1953 Apr Sat>=1 23s 1; 1952 Nov 1 23s 0; 1953-1954 Oct lastSat 23s 0;
    1954-1956 Mar Sat>=17 23s 1; 1955 Nov 5 23s 0; 1956-1964 Nov Sun>=1 3:30 0;
    1957-1964 Mar Sun>=18 3:30 1; 1965-1973 Apr Sun>=16 3:30 1; 1965-1966 Oct Sun>=16 2:30 0;
    1967-1976 Oct Sun>=16 3:30 0; 1973 Dec 30 3:30 1; 1975-1976 Apr Sun>=16 3:30 1;
    1979 May 13 3:30 1; 1979 Oct Sun>=16 3:30 0.
  Cyprus = 1975 Apr 13 0 1; 1975 Oct 12 0 0; 1976 May 15 0 1; 1976 Oct 11 0 0;
    1977-1980 Apr Sun>=1 0 1; 1977 Sep 25 0 0; 1978 Oct 2 0 0; 1979-1997 Sep lastSun 0 0;
    1981-1998 Mar lastSun 0 1.
  Iran = 1910 Jan 1 0 0; 1977 Mar 21 23 1; 1977 Oct 20 24 0; 1978 Mar 24 24 1; 1978 Aug 5 1 0;
    1979 May 26 24 1; 1979 Sep 18 24 0; 1980 Mar 20 24 1; 1980 Sep 22 24 0; 1991 May 2 24 1;
    1992-1995 Mar 21 24 1; 1991-1995 Sep 21 24 0; 1996 Mar 20 24 1; 1996 Sep 20 24 0;
    1997-1999 Mar 21 24 1; 1997-1999 Sep 21 24 0; 2000 Mar 20 24 1; 2000 Sep 20 24 0;
    2001-2003 Mar 21 24 1; 2001-2003 Sep 21 24 0; 2004 Mar 20 24 1; 2004 Sep 20 24 0;
    2005 Mar 21 24 1; 2005 Sep 21 24 0; 2008 Mar 20 24 1; 2008 Sep 20 24 0; 2009-2011 Mar 21 24 1;
    2009-2011 Sep 21 24 0; 2012 Mar 20 24 1; 2012 Sep 20 24 0; 2013-2015 Mar 21 24 1;
    2013-2015 Sep 21 24 0; 2016 Mar 20 24 1; 2016 Sep 20 24 0; 2017-2019 Mar 21 24 1;
    2017-2019 Sep 21 24 0; 2020 Mar 20 24 1; 2020 Sep 20 24 0; 2021-2022 Mar 21 24 1;
    2021-2022 Sep 21 24 0.
  Iraq = 1982 May 1 0 1; 1982-1984 Oct 1 0 0; 1983 Mar 31 0 1; 1984-1985 Apr 1 0 1;
    1985-1990 Sep lastSun 1s 0; 1986-1990 Mar lastSun 1s 1; 1991-2007 Apr 1 3s 1;
    1991-2007 Oct 1 3s 0.
  Israel = 1940 May 31 24u 1; 1940 Sep 30 24u 0; 1940 Nov 16 24u 1; 1942-1946 Oct 31 24u 0;
    1943-1944 Mar 31 24u 1; 1945-1946 Apr 15 24u 1; 1948 May 22 24u 2; 1948 Aug 31 24u 1;
    1948-1949 Oct 31 24u 0; 1949 Apr 30 24u 1; 1950 Apr 15 24u 1; 1950 Sep 14 24u 0;
    1951 Mar 31 24u 1; 1951 Nov 10 24u 0; 1952 Apr 19 24u 1; 1952 Oct 18 24u 0; 1953 Apr 11 24u 1;
    1953 Sep 12 24u 0; 1954 Jun 12 24u 1; 1954 Sep 11 24u 0; 1955 Jun 11 24u 1; 1955 Sep 10 24u 0;
    1956 Jun 2 24u 1; 1956 Sep 29 24u 0; 1957 Apr 27 24u 1; 1957 Sep 21 24u 0; 1974 Jul 6 24 1;
    1974 Oct 12 24 0; 1975 Apr 19 24 1; 1975 Aug 30 24 0; 1980 Aug 2 24s 1; 1980 Sep 13 24s 0;
    1984 May 5 24s 1; 1984 Aug 25 24s 0; 1985 Apr 13 24 1; 1985 Aug 31 24 0; 1986 May 17 24 1;
    1986 Sep 6 24 0; 1987 Apr 14 24 1; 1987 Sep 12 24 0; 1988 Apr 9 24 1; 1988 Sep 3 24 0;
    1989 Apr 29 24 1; 1989 Sep 2 24 0; 1990 Mar 24 24 1; 1990 Aug 25 24 0; 1991 Mar 23 24 1;
    1991 Aug 31 24 0; 1992 Mar 28 24 1; 1992 Sep 5 24 0; 1993 Apr 2 0 1; 1993 Sep 5 0 0;
    1994 Apr 1 0 1; 1994 Aug 28 0 0; 1995 Mar 31 0 1; 1995 Sep 3 0 0; 1996 Mar 14 24 1;
    1996 Sep 15 24 0; 1997 Mar 20 24 1; 1997 Sep 13 24 0; 1998 Mar 20 0 1; 1998 Sep 6 0 0;
    1999 Apr 2 2 1; 1999 Sep 3 2 0; 2000 Apr 14 2 1; 2000 Oct 6 1 0; 2001 Apr 9 1 1;
    2001 Sep 24 1 0; 2002 Mar 29 1 1; 2002 Oct 7 1 0; 2003 Mar 28 1 1; 2003 Oct 3 1 0;
    2004 Apr 7 1 1; 2004 Sep 22 1 0; 2005-2012 Apr Fri<=1 2 1; 2005 Oct 9 2 0; 2006 Oct 1 2 0;
    2007 Sep 16 2 0; 2008 Oct 5 2 0; 2009 Sep 27 2 0; 2010 Sep 12 2 0; 2011 Oct 2 2 0;
    2012 Sep 23 2 0; 2013- Mar Fri>=23 2 1; 2013- Oct lastSun 2 0.
  Japan = 1948 May Sat>=1 24 1; 1948-1951 Sep Sun>=9 1 0; 1949 Apr Sat>=1 24 1;
    1950-1951 May Sat>=1 24 1.
  Jordan = 1973 Jun 6 0 1; 1973-1975 Oct 1 0 0; 1974-1977 May 1 0 1; 1976 Nov 1 0 0;
    1977 Oct 1 0 0; 1978 Apr 30 0 1; 1978 Sep 30 0 0; 1985 Apr 1 0 1; 1985 Oct 1 0 0;
    1986-1988 Apr Fri>=1 0 1; 1986-1990 Oct Fri>=1 0 0; 1989 May 8 0 1; 1990 Apr 27 0 1;
    1991 Apr 17 0 1; 1991 Sep 27 0 0; 1992 Apr 10 0 1; 1992-1993 Oct Fri>=1 0 0;
    1993-1998 Apr Fri>=1 0 1; 1994 Sep Fri>=15 0 0; 1995-1998 Sep Fri>=15 0s 0; 1999 Jul 1 0s 1;
    1999-2002 Sep lastFri 0s 0; 2000-2001 Mar lastThu 0s 1; 2002-2012 Mar lastThu 24 1;
    2003 Oct 24 0s 0; 2004 Oct 15 0s 0; 2005 Sep lastFri 0s 0; 2006-2011 Oct lastFri 0s 0;
    2013 Dec 20 0 0; 2014-2021 Mar lastThu 24 1; 2014-2022 Oct lastFri 0s 0;
    2022 Feb lastThu 24 1.
  Kyrgyzstan = 1992-1996 Apr Sun>=7 0s 1; 1992-1996 Sep lastSun 0 0; 1997-2005 Mar lastSun 2:30 1;
    1997-2004 Oct lastSun 2:30 0.
  Korea = 1948 Jun 1 0 1; 1948 Sep 12 24 0; 1949 Apr 3 0 1; 1949-1951 Sep Sat>=7 24 0;
    1950 Apr 1 0 1; 1951 May 6 0 1; 1955 May 5 0 1; 1955 Sep 8 24 0; 1956 May 20 0 1;
    1956 Sep 29 24 0; 1957-1960 May Sun>=1 0 1; 1957-1960 Sep Sat>=17 24 0;
    1987-1988 May Sun>=8 2 1; 1987-1988 Oct Sun>=8 3 0.
  Lebanon = 1920 Mar 28 0 1; 1920 Oct 25 0 0; 1921 Apr 3 0 1; 1921 Oct 3 0 0; 1922 Mar 26 0 1;
    1922 Oct 8 0 0; 1923 Apr 22 0 1; 1923 Sep 16 0 0; 1957-1961 May 1 0 1; 1957-1961 Oct 1 0 0;
    1972 Jun 22 0 1; 1972-1977 Oct 1 0 0; 1973-1977 May 1 0 1; 1978 Apr 30 0 1; 1978 Sep 30 0 0;
    1984-1987 May 1 0 1; 1984-1991 Oct 16 0 0; 1988 Jun 1 0 1; 1989 May 10 0 1;
    1990-1992 May 1 0 1; 1992 Oct 4 0 0; 1993- Mar lastSun 0 1; 1993-1998 Sep lastSun 0 0;
    1999- Oct lastSun 0 0.
  NorthBorneo = 1935-1941 Sep 14 0 0:20; 1935-1941 Dec 14 0 0.
  Mongolia = 1983-1984 Apr 1 0 1; 1983 Oct 1 0 0; 1985-1998 Mar lastSun 0 1;
    1984-1998 Sep lastSun 0 0; 2001 Apr lastSat 2 1; 2001-2006 Sep lastSat 2 0;
    2002-2006 Mar lastSat 2 1; 2015-2016 Mar lastSat 2 1; 2015-2016 Sep lastSat 0 0.
  Pakistan = 2002 Apr Sun>=2 0 1; 2002 Oct Sun>=2 0 0; 2008 Jun 1 0 1; 2008-2009 Nov 1 0 0;
    2009 Apr 15 0 1.
  Palestine = 1999-2005 Apr Fri>=15 0 1; 1999-2003 Oct Fri>=15 0 0; 2004 Oct 1 1 0;
    2005 Oct 4 2 0; 2006-2007 Apr 1 0 1; 2006 Sep 22 0 0; 2007 Sep 13 2 0;
    2008-2009 Mar lastFri 0 1; 2008 Sep 1 0 0; 2009 Sep 4 1 0; 2010 Mar 26 0 1; 2010 Aug 11 0 0;
    2011 Apr 1 0:1 1; 2011 Aug 1 0 0; 2011 Aug 30 0 1; 2011 Sep 30 0 0;
    2012-2014 Mar lastThu 24 1; 2012 Sep 21 1 0; 2013 Sep 27 0 0; 2014 Oct 24 0 0;
    2015 Mar 28 0 1; 2015 Oct 23 1 0; 2016-2018 Mar Sat<=30 1 1; 2016-2018 Oct Sat<=30 1 0;
    2019 Mar 29 0 1; 2019 Oct Sat<=30 0 0; 2020-2021 Mar Sat<=30 0 1; 2020 Oct 24 1 0;
    2021 Oct 29 1 0; 2022 Mar 27 0 1; 2022-2035 Oct Sat<=30 2 0; 2023 Apr 29 2 1; 2024 Apr 20 2 1;
    2025 Apr 12 2 1; 2026-2054 Mar Sat<=30 2 1; 2036 Oct 18 2 0; 2037 Oct 10 2 0; 2038 Sep 25 2 0;
    2039 Sep 17 2 0; 2040 Sep 1 2 0; 2040 Oct 20 2 1; 2040-2067 Oct Sat<=30 2 0; 2041 Aug 24 2 0;
    2041 Oct 5 2 1; 2042 Aug 16 2 0; 2042 Sep 27 2 1; 2043 Aug 1 2 0; 2043 Sep 19 2 1;
    2044 Jul 23 2 0; 2044 Sep 3 2 1; 2045 Jul 15 2 0; 2045 Aug 26 2 1; 2046 Jun 30 2 0;
    2046 Aug 18 2 1; 2047 Jun 22 2 0; 2047 Aug 3 2 1; 2048 Jun 6 2 0; 2048 Jul 25 2 1;
    2049 May 29 2 0; 2049 Jul 10 2 1; 2050 May 21 2 0; 2050 Jul 2 2 1; 2051 May 6 2 0;
    2051 Jun 24 2 1; 2052 Apr 27 2 0; 2052 Jun 8 2 1; 2053 Apr 12 2 0; 2053 May 31 2 1;
    2054 Apr 4 2 0; 2054 May 23 2 1; 2055 May 8 2 1; 2056 Apr 29 2 1; 2057 Apr 14 2 1;
    2058 Apr 6 2 1; 2059- Mar Sat<=30 2 1; 2068 Oct 20 2 0; 2069 Oct 12 2 0; 2070 Oct 4 2 0;
    2071 Sep 19 2 0; 2072 Sep 10 2 0; 2072 Oct 22 2 1; 2072- Oct Sat<=30 2 0; 2073 Sep 2 2 0;
    2073 Oct 14 2 1; 2074 Aug 18 2 0; 2074 Oct 6 2 1; 2075 Aug 10 2 0; 2075 Sep 21 2 1;
    2076 Jul 25 2 0; 2076 Sep 12 2 1; 2077 Jul 17 2 0; 2077 Sep 4 2 1; 2078 Jul 9 2 0;
    2078 Aug 20 2 1; 2079 Jun 24 2 0; 2079 Aug 12 2 1; 2080 Jun 15 2 0; 2080 Jul 27 2 1;
    2081 Jun 7 2 0; 2081 Jul 19 2 1; 2082 May 23 2 0; 2082 Jul 11 2 1; 2083 May 15 2 0;
    2083 Jun 26 2 1; 2084 Apr 29 2 0; 2084 Jun 17 2 1; 2085 Apr 21 2 0; 2085 Jun 9 2 1;
    2086 Apr 13 2 0; 2086 May 25 2 1.
  Philippines = 1936 Oct 31 24 1; 1937 Jan 15 24 0; 1941 Dec 15 24 1; 1945 Nov 30 24 0;
    1954 Apr 11 24 1; 1954 Jun 4 24 0; 1977 Mar 27 24 1; 1977 Sep 21 24 0; 1990 May 21 0 1;
    1990 Jul 28 24 0.
  Syria = 1920-1923 Apr Sun>=15 2 1; 1920-1923 Oct Sun>=1 2 0; 1962 Apr 29 2 1; 1962 Oct 1 2 0;
    1963-1965 May 1 2 1; 1963 Sep 30 2 0; 1964 Oct 1 2 0; 1965 Sep 30 2 0; 1966 Apr 24 2 1;
    1966-1976 Oct 1 2 0; 1967-1978 May 1 2 1; 1977-1978 Sep 1 2 0; 1983-1984 Apr 9 2 1;
    1983-1984 Oct 1 2 0; 1986 Feb 16 2 1; 1986 Oct 9 2 0; 1987 Mar 1 2 1; 1987-1988 Oct 31 2 0;
    1988 Mar 15 2 1; 1989 Mar 31 2 1; 1989 Oct 1 2 0; 1990 Apr 1 2 1; 1990 Sep 30 2 0;
    1991 Apr 1 0 1; 1991-1992 Oct 1 0 0; 1992 Apr 8 0 1; 1993 Mar 26 0 1; 1993 Sep 25 0 0;
    1994-1996 Apr 1 0 1; 1994-2005 Oct 1 0 0; 1997-1998 Mar lastMon 0 1; 1999-2006 Apr 1 0 1;
    2006 Sep 22 0 0; 2007 Mar lastFri 0 1; 2007 Nov Fri>=1 0 0; 2008 Apr Fri>=1 0 1;
    2008 Nov 1 0 0; 2009 Mar lastFri 0 1; 2010-2011 Apr Fri>=1 0 1; 2012-2022 Mar lastFri 0 1;
    2009-2022 Oct lastFri 0 0."

/-- The zones. -/
def asiaZones : String := "
  Asia/Almaty = 5:7:48 - 1924 May 2; 5 - 1930 Jun 21; 6 Russia 1991 Mar 31 2s;
    5 Russia 1992 Jan 19 2s; 6 Russia 2004 Oct 31 2s; 6 - 2024 Mar; 5 -.
  Asia/Amman = 2:23:44 - 1931; 2 Jordan 2022 Oct 28 0s; 3 -.
  Asia/Anadyr = 11:49:56 - 1924 May 2; 12 - 1930 Jun 21; 13 Russia 1982 Apr 1 0s;
    12 Russia 1991 Mar 31 2s; 11 Russia 1992 Jan 19 2s; 12 Russia 2010 Mar 28 2s;
    11 Russia 2011 Mar 27 2s; 12 -.
  Asia/Aqtau = 3:21:4 - 1924 May 2; 4 - 1930 Jun 21; 5 - 1981 Oct; 6 - 1982 Apr;
    5 Russia 1991 Mar 31 2s; 4 Russia 1992 Jan 19 2s; 5 Russia 1994 Sep 25 2s;
    4 Russia 2004 Oct 31 2s; 5 -.
  Asia/Aqtobe = 3:48:40 - 1924 May 2; 4 - 1930 Jun 21; 5 - 1981 Apr; 5 1 1981 Oct; 6 - 1982 Apr;
    5 Russia 1991 Mar 31 2s; 4 Russia 1992 Jan 19 2s; 5 Russia 2004 Oct 31 2s; 5 -.
  Asia/Ashgabat = 3:53:32 - 1924 May 2; 4 - 1930 Jun 21; 5 Russia 1991 Mar 31 2;
    4 Russia 1992 Jan 19 2; 5 -.
  Asia/Atyrau = 3:27:44 - 1924 May 2; 3 - 1930 Jun 21; 5 - 1981 Oct; 6 - 1982 Apr;
    5 Russia 1991 Mar 31 2s; 4 Russia 1992 Jan 19 2s; 5 Russia 1999 Mar 28 2s;
    4 Russia 2004 Oct 31 2s; 5 -.
  Asia/Baghdad = 2:57:40 - 1890; 2:57:36 - 1918; 3 - 1982 May; 3 Iraq.
  Asia/Baku = 3:19:24 - 1924 May 2; 3 - 1957 Mar; 4 Russia 1991 Mar 31 2s;
    3 Russia 1992 Sep lastSun 2s; 4 - 1996; 4 EU 1997; 4 Azerbaijan.
  Asia/Bangkok = 6:42:4 - 1880; 6:42:4 - 1920 Apr; 7 -.
  Asia/Barnaul = 5:35 - 1919 Dec 10; 6 - 1930 Jun 21; 7 Russia 1991 Mar 31 2s;
    6 Russia 1992 Jan 19 2s; 7 Russia 1995 May 28; 6 Russia 2011 Mar 27 2s; 7 - 2014 Oct 26 2s;
    6 - 2016 Mar 27 2s; 7 -.
  Asia/Beirut = 2:22 - 1880; 2 Lebanon.
  Asia/Bishkek = 4:58:24 - 1924 May 2; 5 - 1930 Jun 21; 6 Russia 1991 Mar 31 2s;
    5 Russia 1991 Aug 31 2; 5 Kyrgyzstan 2005 Aug 12; 6 -.
  Asia/Chita = 7:33:52 - 1919 Dec 15; 8 - 1930 Jun 21; 9 Russia 1991 Mar 31 2s;
    8 Russia 1992 Jan 19 2s; 9 Russia 2011 Mar 27 2s; 10 - 2014 Oct 26 2s; 8 - 2016 Mar 27 2; 9 -.
  Asia/Colombo = 5:19:24 - 1880; 5:19:32 - 1906; 5:30 - 1942 Jan 5; 5:30 0:30 1942 Sep;
    5:30 1 1945 Oct 16 2; 5:30 - 1996 May 25; 6:30 - 1996 Oct 26 0:30; 6 - 2006 Apr 15 0:30;
    5:30 -.
  Asia/Damascus = 2:25:12 - 1920; 2 Syria 2022 Oct 28; 3 -.
  Asia/Dhaka = 6:1:40 - 1890; 5:53:20 - 1941 Oct; 6:30 - 1942 May 15; 5:30 - 1942 Sep;
    6:30 - 1951 Sep 30; 6 - 2009; 6 Bangladesh.
  Asia/Dili = 8:22:20 - 1911 Dec 31 16u; 8 - 1942 Feb 21 23; 9 - 1976 May 3; 8 - 2000 Sep 17; 9 -.
  Asia/Dubai = 3:41:12 - 1920; 4 -.
  Asia/Dushanbe = 4:35:12 - 1924 May 2; 5 - 1930 Jun 21; 6 Russia 1991 Mar 31 2s;
    5 1 1991 Sep 9 2s; 5 -.
  Asia/Famagusta = 2:15:48 - 1921 Nov 14; 2 Cyprus 1998 Sep; 2 EU 2016 Sep 8; 3 - 2017 Oct 29 1u;
    2 EU.
  Asia/Gaza = 2:17:52 - 1900 Oct; 2 Israel 1948 May 15; 2 Egypt 1967 Jun 5; 2 Israel 1996;
    2 Jordan 1999; 2 Palestine 2008 Aug 29; 2 - 2008 Sep; 2 Palestine 2010; 2 - 2010 Mar 27 0:1;
    2 Palestine 2011 Aug; 2 - 2012; 2 Palestine.
  Asia/Hebron = 2:20:23 - 1900 Oct; 2 Israel 1948 May 15; 2 Egypt 1967 Jun 5; 2 Israel 1996;
    2 Jordan 1999; 2 Palestine.
  Asia/Ho_Chi_Minh = 7:6:30 - 1906 Jul; 7:6:30 - 1911 May; 7 - 1942 Dec 31 23; 8 - 1945 Mar 14 23;
    9 - 1945 Sep 1 24; 7 - 1947 Apr; 8 - 1955 Jul 1 1; 7 - 1959 Dec 31 23; 8 - 1975 Jun 13; 7 -.
  Asia/Hong_Kong = 7:36:42 - 1904 Oct 29 17u; 8 - 1941 Jun 15 3; 8 1 1941 Oct 1 4;
    8 0:30 1941 Dec 25; 9 - 1945 Nov 18 2; 8 HongKong.
  Asia/Hovd = 6:6:36 - 1905 Aug; 6 - 1978; 7 Mongolia.
  Asia/Irkutsk = 6:57:5 - 1880; 6:57:5 - 1920 Jan 25; 7 - 1930 Jun 21; 8 Russia 1991 Mar 31 2s;
    7 Russia 1992 Jan 19 2s; 8 Russia 2011 Mar 27 2s; 9 - 2014 Oct 26 2s; 8 -.
  Asia/Jakarta = 7:7:12 - 1867 Aug 10; 7:7:12 - 1923 Dec 31 16:40u; 7:20 - 1932 Nov;
    7:30 - 1942 Mar 23; 9 - 1945 Sep 23; 7:30 - 1948 May; 8 - 1950 May; 7:30 - 1964; 7 -.
  Asia/Jayapura = 9:22:48 - 1932 Nov; 9 - 1944 Sep; 9:30 - 1964; 9 -.
  Asia/Jerusalem = 2:20:54 - 1880; 2:20:40 - 1918; 2 Israel.
  Asia/Kabul = 4:36:48 - 1890; 4 - 1945; 4:30 -.
  Asia/Kamchatka = 10:34:36 - 1922 Nov 10; 11 - 1930 Jun 21; 12 Russia 1991 Mar 31 2s;
    11 Russia 1992 Jan 19 2s; 12 Russia 2010 Mar 28 2s; 11 Russia 2011 Mar 27 2s; 12 -.
  Asia/Karachi = 4:28:12 - 1907; 5:30 - 1942 Sep; 5:30 1 1945 Oct 15; 5:30 - 1951 Sep 30;
    5 - 1971 Mar 26; 5 Pakistan.
  Asia/Kathmandu = 5:41:16 - 1920; 5:30 - 1986; 5:45 -.
  Asia/Khandyga = 9:2:13 - 1919 Dec 15; 8 - 1930 Jun 21; 9 Russia 1991 Mar 31 2s;
    8 Russia 1992 Jan 19 2s; 9 Russia 2004; 10 Russia 2011 Mar 27 2s; 11 - 2011 Sep 13 0s;
    10 - 2014 Oct 26 2s; 9 -.
  Asia/Kolkata = 5:53:28 - 1854 Jun 28; 5:53:20 - 1870; 5:21:10 - 1906; 5:30 - 1941 Oct;
    5:30 1 1942 May 15; 5:30 - 1942 Sep; 5:30 1 1945 Oct 15; 5:30 -.
  Asia/Krasnoyarsk = 6:11:26 - 1920 Jan 6; 6 - 1930 Jun 21; 7 Russia 1991 Mar 31 2s;
    6 Russia 1992 Jan 19 2s; 7 Russia 2011 Mar 27 2s; 8 - 2014 Oct 26 2s; 7 -.
  Asia/Kuching = 7:21:20 - 1926 Mar; 7:30 - 1933; 8 NorthBorneo 1942 Feb 16; 9 - 1945 Sep 12; 8 -.
  Asia/Macau = 7:34:10 - 1904 Oct 30; 8 - 1941 Dec 21 23; 9 Macau 1945 Sep 30 24; 8 Macau.
  Asia/Magadan = 10:3:12 - 1924 May 2; 10 - 1930 Jun 21; 11 Russia 1991 Mar 31 2s;
    10 Russia 1992 Jan 19 2s; 11 Russia 2011 Mar 27 2s; 12 - 2014 Oct 26 2s; 10 - 2016 Apr 24 2s;
    11 -.
  Asia/Makassar = 7:57:36 - 1920; 7:57:36 - 1932 Nov; 8 - 1942 Feb 9; 9 - 1945 Sep 23; 8 -.
  Asia/Manila = -15:56:8 - 1844 Dec 31; 8:3:52 - 1899 Sep 6 4u; 8 Philippines 1942 Feb 11 24;
    9 - 1945 Mar 4; 8 Philippines.
  Asia/Nicosia = 2:13:28 - 1921 Nov 14; 2 Cyprus 1998 Sep; 2 EU.
  Asia/Novokuznetsk = 5:48:48 - 1924 May; 6 - 1930 Jun 21; 7 Russia 1991 Mar 31 2s;
    6 Russia 1992 Jan 19 2s; 7 Russia 2010 Mar 28 2s; 6 Russia 2011 Mar 27 2s; 7 -.
  Asia/Novosibirsk = 5:31:40 - 1919 Dec 14 6; 6 - 1930 Jun 21; 7 Russia 1991 Mar 31 2s;
    6 Russia 1992 Jan 19 2s; 7 Russia 1993 May 23; 6 Russia 2011 Mar 27 2s; 7 - 2014 Oct 26 2s;
    6 - 2016 Jul 24 2s; 7 -.
  Asia/Omsk = 4:53:30 - 1919 Nov 14; 5 - 1930 Jun 21; 6 Russia 1991 Mar 31 2s;
    5 Russia 1992 Jan 19 2s; 6 Russia 2011 Mar 27 2s; 7 - 2014 Oct 26 2s; 6 -.
  Asia/Oral = 3:25:24 - 1924 May 2; 3 - 1930 Jun 21; 5 - 1981 Apr; 5 1 1981 Oct; 6 - 1982 Apr;
    5 Russia 1989 Mar 26 2s; 4 Russia 1992 Jan 19 2s; 5 Russia 1992 Mar 29 2s;
    4 Russia 2004 Oct 31 2s; 5 -.
  Asia/Pontianak = 7:17:20 - 1908 May; 7:17:20 - 1932 Nov; 7:30 - 1942 Jan 29; 9 - 1945 Sep 23;
    7:30 - 1948 May; 8 - 1950 May; 7:30 - 1964; 8 - 1988; 7 -.
  Asia/Pyongyang = 8:23 - 1908 Apr; 8:30 - 1912; 9 - 1945 Aug 24; 9 - 2015 Aug 15;
    8:30 - 2018 May 4 23:30; 9 -.
  Asia/Qatar = 3:26:8 - 1920; 4 - 1972 Jun; 3 -.
  Asia/Qostanay = 4:14:28 - 1924 May 2; 4 - 1930 Jun 21; 5 - 1981 Apr; 5 1 1981 Oct; 6 - 1982 Apr;
    5 Russia 1991 Mar 31 2s; 4 Russia 1992 Jan 19 2s; 5 Russia 2004 Oct 31 2s; 6 - 2024 Mar; 5 -.
  Asia/Qyzylorda = 4:21:52 - 1924 May 2; 4 - 1930 Jun 21; 5 - 1981 Apr; 5 1 1981 Oct;
    6 - 1982 Apr; 5 Russia 1991 Mar 31 2s; 4 Russia 1991 Sep 29 2s; 5 Russia 1992 Jan 19 2s;
    6 Russia 1992 Mar 29 2s; 5 Russia 2004 Oct 31 2s; 6 - 2018 Dec 21; 5 -.
  Asia/Riyadh = 3:6:52 - 1947 Mar 14; 3 -.
  Asia/Sakhalin = 9:30:48 - 1905 Aug 23; 9 - 1945 Aug 25; 11 Russia 1991 Mar 31 2s;
    10 Russia 1992 Jan 19 2s; 11 Russia 1997 Mar lastSun 2s; 10 Russia 2011 Mar 27 2s;
    11 - 2014 Oct 26 2s; 10 - 2016 Mar 27 2s; 11 -.
  Asia/Samarkand = 4:27:53 - 1924 May 2; 4 - 1930 Jun 21; 5 - 1981 Apr; 5 1 1981 Oct;
    6 - 1982 Apr; 5 Russia 1992; 5 -.
  Asia/Seoul = 8:27:52 - 1908 Apr; 8:30 - 1912; 9 - 1945 Sep 8; 9 Korea 1954 Mar 21;
    8:30 Korea 1961 Aug 10; 9 Korea.
  Asia/Shanghai = 8:5:43 - 1901; 8 Shanghai 1949 May 28; 8 China.
  Asia/Singapore = 6:55:25 - 1901; 6:55:25 - 1905 Jun; 7 - 1933; 7 0:20 1936; 7:20 - 1941 Sep;
    7:30 - 1942 Feb 16; 9 - 1945 Sep 12; 7:30 - 1981 Dec 31 16u; 8 -.
  Asia/Srednekolymsk = 10:14:52 - 1924 May 2; 10 - 1930 Jun 21; 11 Russia 1991 Mar 31 2s;
    10 Russia 1992 Jan 19 2s; 11 Russia 2011 Mar 27 2s; 12 - 2014 Oct 26 2s; 11 -.
  Asia/Taipei = 8:6 - 1896; 8 - 1937 Oct; 9 - 1945 Sep 21 1; 8 Taiwan.
  Asia/Tashkent = 4:37:11 - 1924 May 2; 5 - 1930 Jun 21; 6 Russia 1991 Mar 31 2; 5 Russia 1992;
    5 -.
  Asia/Tbilisi = 2:59:11 - 1880; 2:59:11 - 1924 May 2; 3 - 1957 Mar; 4 Russia 1991 Mar 31 2s;
    3 Russia 1992; 3 EasternEurope 1994 Sep lastSun; 4 EasternEurope 1996 Oct lastSun;
    4 1 1997 Mar lastSun; 4 EasternEurope 2004 Jun 27; 3 Russia 2005 Mar lastSun 2; 4 -.
  Asia/Tehran = 3:25:44 - 1916; 3:25:44 - 1935 Jun 13; 3:30 Iran 1977 Oct 20 24;
    4 Iran 1978 Nov 10 24; 3:30 Iran.
  Asia/Thimphu = 5:58:36 - 1947 Aug 15; 5:30 - 1987 Oct; 6 -.
  Asia/Tokyo = 9:18:59 - 1887 Dec 31 15u; 9 Japan.
  Asia/Tomsk = 5:39:51 - 1919 Dec 22; 6 - 1930 Jun 21; 7 Russia 1991 Mar 31 2s;
    6 Russia 1992 Jan 19 2s; 7 Russia 2002 May 1 3; 6 Russia 2011 Mar 27 2s; 7 - 2014 Oct 26 2s;
    6 - 2016 May 29 2s; 7 -.
  Asia/Ulaanbaatar = 7:7:32 - 1905 Aug; 7 - 1978; 8 Mongolia.
  Asia/Urumqi = 5:50:20 - 1928; 6 -.
  Asia/Ust-Nera = 9:32:54 - 1919 Dec 15; 8 - 1930 Jun 21; 9 Russia 1981 Apr;
    11 Russia 1991 Mar 31 2s; 10 Russia 1992 Jan 19 2s; 11 Russia 2011 Mar 27 2s;
    12 - 2011 Sep 13 0s; 11 - 2014 Oct 26 2s; 10 -.
  Asia/Vladivostok = 8:47:31 - 1922 Nov 15; 9 - 1930 Jun 21; 10 Russia 1991 Mar 31 2s;
    9 Russia 1992 Jan 19 2s; 10 Russia 2011 Mar 27 2s; 11 - 2014 Oct 26 2s; 10 -.
  Asia/Yakutsk = 8:38:58 - 1919 Dec 15; 8 - 1930 Jun 21; 9 Russia 1991 Mar 31 2s;
    8 Russia 1992 Jan 19 2s; 9 Russia 2011 Mar 27 2s; 10 - 2014 Oct 26 2s; 9 -.
  Asia/Yangon = 6:24:47 - 1880; 6:24:47 - 1920; 6:30 - 1942 May; 9 - 1945 May 3; 6:30 -.
  Asia/Yekaterinburg = 4:2:33 - 1916 Jul 3; 3:45:5 - 1919 Jul 15 4; 4 - 1930 Jun 21;
    5 Russia 1991 Mar 31 2s; 4 Russia 1992 Jan 19 2s; 5 Russia 2011 Mar 27 2s; 6 - 2014 Oct 26 2s;
    5 -.
  Asia/Yerevan = 2:58 - 1924 May 2; 3 - 1957 Mar; 4 Russia 1991 Mar 31 2s;
    3 Russia 1995 Sep 24 2s; 4 - 1997; 4 Russia 2011; 4 Armenia."

end ZoneData

end TransitDwell
